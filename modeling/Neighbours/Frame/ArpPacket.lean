import Neighbours.Frame.Access
import Neighbours.Message

/-! ARP packets for IPv4 over Ethernet. The header declares the lengths of the addresses; a packet
of any other protocol pair is refused, as is one shorter than it declares. Operations other than 1
count as replies. -/

namespace Neighbours.Frame.ArpPacket

def operation : Direction → Nat
  | .request => 1
  | .reply => 2

def read (packet : Bytes) : Access Arp :=
  if packet.length < 8 then .error .unsuited
  else do
    let macLength ← packet.octetAt 4
    let ipLength ← packet.octetAt 5
    if packet.length < 8 + 2 * (macLength.toNat + ipLength.toNat) then .error .unsuited
    else do
      let macKind ← packet.wordAt 0
      let ipKind ← packet.wordAt 2
      if macKind ≠ 1 ∨ ipKind ≠ 0x0800 ∨ macLength ≠ 6 ∨ ipLength ≠ 4 then .error .unsuited
      else do
        let operation ← packet.wordAt 6
        let senderMac ← packet.octetsAt 6 8
        let senderIp ← packet.octetsAt 4 14
        let targetMac ← packet.octetsAt 6 18
        let targetIp ← packet.octetsAt 4 24
        let direction := if operation = 1 then .request else .reply
        return ⟨direction, senderMac, senderIp, targetMac, targetIp⟩

def write (arp : Arp) : Access Bytes :=
  Bytes.filled 28
    [(0, Bytes.ofWord 1), (2, Bytes.ofWord 0x0800), (4, [6]), (5, [4]),
      (6, Bytes.ofWord (operation arp.direction)), (8, arp.senderMac.bytes),
      (14, arp.senderIp.bytes), (18, arp.targetMac.bytes), (24, arp.targetIp.bytes)]

end Neighbours.Frame.ArpPacket
