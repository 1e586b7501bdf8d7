import Neighbours.App
import Neighbours.FrameClass
import Neighbours.Settings

/-! Interception of frames: which frame classes are requested from the packet transport, and the
calls that change it. ARP is requested while there are handlers, neighbour discovery while there are
handlers and the settings ask for it. -/

namespace Neighbours

inductive Verb where
  | request
  | cancel
deriving DecidableEq

/-- A call to the packet transport. -/
structure Call where
  verb : Verb
  frameClass : FrameClass
  priority : UInt32
  app : App
deriving DecidableEq

def Verb.text : Verb → String
  | request => "request"
  | cancel => "cancel"

def Call.text (call : Call) : String :=
  s!"{call.verb.text} {call.frameClass.text} {call.priority.toNat} {call.app.text}"

structure Interception where
  arp : Bool
  discovery : Bool
deriving DecidableEq

namespace Interception

def idle : Interception :=
  ⟨false, false⟩

/-- The frame classes currently requested. -/
def requested (interception : Interception) : List FrameClass :=
  (if interception.arp then [.arp] else []) ++
    (if interception.discovery then FrameClass.discovery else [])

/-- The calls that bring some classes from one state to another; none if the state stays. -/
def toggle (classes : List FrameClass) (before after : Bool) (priority : UInt32) (app : App) :
    List Call :=
  if before = after then []
  else
    classes.map fun frameClass =>
      ⟨if after then .request else .cancel, frameClass, priority, app⟩

/-- Brings interception in line with the settings, where `occupied` tells whether there are
handlers. -/
def align (interception : Interception) (settings : Settings) (app : App) (occupied : Bool) :
    List Call × Interception :=
  let arp := occupied
  let discovery := occupied && settings.discovery
  (toggle [.arp] interception.arp arp settings.priority app ++
      toggle FrameClass.discovery interception.discovery discovery settings.priority app,
    ⟨arp, discovery⟩)

@[simp]
theorem toggle_self (classes : List FrameClass) (state : Bool) (priority : UInt32) (app : App) :
    toggle classes state state priority app = [] := by
  simp [toggle]

/-- Interception that is in line already takes no calls. -/
theorem align_align (interception : Interception) (settings : Settings) (app : App)
    (occupied : Bool) :
    (interception.align settings app occupied).2.align settings app occupied =
      ([], (interception.align settings app occupied).2) := by
  simp [align]

theorem mem_requested_iff {interception : Interception} {frameClass : FrameClass} :
    frameClass ∈ interception.requested ↔
      (if frameClass.isDiscovery then interception.discovery else interception.arp) = true := by
  obtain ⟨arp, discovery⟩ := interception
  cases frameClass <;> cases arp <;> cases discovery <;>
    simp [requested, FrameClass.discovery, FrameClass.isDiscovery]

/-- Cancels every class, requested or not. -/
def cancelAll (priority : UInt32) (app : App) : List Call :=
  FrameClass.all.map fun frameClass => ⟨.cancel, frameClass, priority, app⟩

end Interception

end Neighbours
