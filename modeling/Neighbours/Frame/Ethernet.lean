import Neighbours.Frame.Access
import Neighbours.Mac

/-! Untagged Ethernet frames. -/

namespace Neighbours.Frame

structure Ethernet where
  destination : Mac
  source : Mac
  kind : Nat
  payload : Bytes
deriving DecidableEq

namespace Ethernet

def arpKind : Nat := 0x0806

def ipv6Kind : Nat := 0x86dd

def read (frame : Bytes) : Access Ethernet :=
  if frame.length < 14 then .error .unsuited
  else do
    let destination ← frame.octetsAt 6 0
    let source ← frame.octetsAt 6 6
    let kind ← frame.wordAt 12
    let payload ← frame.window 14 frame.length
    return ⟨destination, source, kind, payload⟩

def write (ethernet : Ethernet) : Access Bytes :=
  Bytes.filled (14 + ethernet.payload.length)
    [(6, ethernet.source.bytes), (0, ethernet.destination.bytes), (12, Bytes.ofWord ethernet.kind),
      (14, ethernet.payload)]

end Ethernet

end Neighbours.Frame
