import Neighbours.Arrival
import Neighbours.Frame.ArpPacket
import Neighbours.Frame.DiscoveryPacket
import Neighbours.Frame.Ethernet
import Neighbours.Frame.Tag

/-! Recognition of neighbour messages among received frames. A tagged frame is recognised by what
its outermost tag encloses; the arrival keeps the frame as it was received. -/

namespace Neighbours.Arrival

/-- The neighbour message in an untagged frame. -/
def messageOf (ethernet : Frame.Ethernet) : Access Message :=
  if ethernet.kind = Frame.Ethernet.arpKind then
    (Frame.ArpPacket.read ethernet.payload).map .arp
  else if ethernet.kind = Frame.Ethernet.ipv6Kind then
    (Frame.DiscoveryPacket.read ethernet.payload).map .discovery
  else .error .unsuited

def recognise (frame : Bytes) (point : Point) : Access Arrival := do
  let untagged ← Frame.splitTag frame
  let ethernet ← Frame.Ethernet.read untagged.frame
  let message ← messageOf ethernet
  return ⟨point, ethernet.source, ethernet.destination, untagged.vlan, message, frame⟩

/-- The neighbour message that a frame carries, if it carries one. -/
def ofFrame? (frame : Bytes) (point : Point) : Option Arrival :=
  (recognise frame point).toOption

end Neighbours.Arrival
