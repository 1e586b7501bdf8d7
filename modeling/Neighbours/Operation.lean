import Neighbours.Action
import Neighbours.Engine

/-! Operations on an engine and the behaviour of handlers. An operation is asked for from outside or
by a running handler; both are the same to the engine. A handler's behaviour in one invocation is a
script: what it does, in order, and how it ends. -/

namespace Neighbours

/-- A received frame on its way through the processors of a switch. A processor that handles it
blocks it for those that follow. -/
structure Packet where
  frame : Bytes
  point : Point
  blocked : Bool
deriving DecidableEq

inductive Operation where
  | command (command : Command)
  /-- Hands over one received frame. -/
  | receive (frame : Bytes) (point : Point)
  /-- Presents a packet a number of times. -/
  | present (packet : Packet) (times : Nat)
  | dispatch (arrival : Arrival)
  /-- Acts on the message whose handle was kept under a name. -/
  | act (slot : String) (action : Action)
  | replaceInventory (inventory : Inventory)
  | readSettings
  | readRegistrations
  | readApp
  | idle

inductive Answer where
  | nothing
  | command (answer : CommandAnswer)
  /-- Whether the frame was a neighbour message and is blocked for others. -/
  | received (blocked : Bool)
  | presented (packet : Packet)
  /-- The number of handlers invoked. -/
  | dispatched (invoked : Nat)
  /-- The message acted on, if a handle was kept. -/
  | acted (arrival : Option Arrival)
  | settings (settings : Settings)
  | registrations (registry : Registry)
  | app (app : App)
deriving DecidableEq

inductive Step where
  | act (action : Action)
  /-- Keeps the handle on the message under a name, for later use by anyone. -/
  | keep (slot : String)
  | perform (operation : Operation)

inductive Ending where
  | normal
  | failed (error : String)
  | panicked
deriving DecidableEq

def Ending.isFault : Ending → Bool
  | normal => false
  | failed _ | panicked => true

structure Script where
  steps : List Step
  ending : Ending

/-- What handlers do: for the number of an invocation, counted over a whole run, the name of the
handler and the message it is given. -/
abbrev Handlers := Nat → String → Arrival → Script

end Neighbours
