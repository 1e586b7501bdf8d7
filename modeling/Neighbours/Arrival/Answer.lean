import Neighbours.Arrival
import Neighbours.Frame.ArpPacket
import Neighbours.Frame.DiscoveryPacket
import Neighbours.Frame.Ethernet
import Neighbours.Frame.Tag

/-! Answers to neighbour messages: the frame that tells the sender of a message that the address it
is about is found at a given hardware address. The answer goes to the hardware address the message
came from and stays on the VLAN it came from. -/

namespace Neighbours.Arrival

def untaggedAnswer (arrival : Arrival) (mac : Mac) : Access Bytes :=
  match arrival.message with
  | .arp packet => do
    let payload ← Frame.ArpPacket.write
      ⟨.reply, mac, packet.targetIp, arrival.source, packet.senderIp⟩
    Frame.Ethernet.write ⟨arrival.source, mac, Frame.Ethernet.arpKind, payload⟩
  | .discovery packet => do
    let payload ← Frame.DiscoveryPacket.write packet.target packet.source mac
    Frame.Ethernet.write ⟨arrival.source, mac, Frame.Ethernet.ipv6Kind, payload⟩

def buildAnswer (arrival : Arrival) (mac : Mac) : Access Bytes := do
  let frame ← arrival.untaggedAnswer mac
  match arrival.vlan with
  | some vlan => Frame.replaceTag frame (some vlan)
  | none => return frame

/-- The frame that announces the target of a message at `mac`. -/
def answer (arrival : Arrival) (mac : Mac) : Bytes :=
  (arrival.buildAnswer mac).toOption.getD []

end Neighbours.Arrival
