import Neighbours.Frame.Checksum
import Neighbours.Frame.DiscoveryOption
import Neighbours.Message

/-! Neighbour solicitations and advertisements as ICMP messages inside IPv6 packets. When such a
message is read its checksum is not verified; what is written has a valid one. -/

namespace Neighbours.Frame.DiscoveryPacket

def solicitation : UInt8 := 135

def advertisement : UInt8 := 136

def direction? (kind : UInt8) : Option Direction :=
  if kind = solicitation then some .request
  else if kind = advertisement then some .reply
  else none

/-- The shortest message: the ICMP header, the flags and the target address. -/
def leastSize : Nat := 24

/-- Reads the ICMP message that an IPv6 packet carries. -/
def ofPayload (packet : Ipv6Packet) : Access Discovery :=
  if packet.nextHeader ≠ Ipv6Packet.icmp then .error .unsuited
  else if packet.payload.length < leastSize then .error .unsuited
  else do
    let kind ← packet.payload.octetAt 0
    match direction? kind with
    | none => .error .unsuited
    | some direction => do
      let target ← packet.payload.octetsAt 16 8
      let options ← packet.payload.window leastSize packet.payload.length
      let _ ← DiscoveryOption.readAll options
      return ⟨direction, packet.source, packet.destination, target⟩

def read (packet : Bytes) : Access Discovery := do
  let packet ← Ipv6Packet.read packet
  ofPayload packet

/-- The flags of an advertisement that answers a solicitation and replaces what its receiver knew.
-/
def solicitedOverride : UInt8 := 0x60

/-- An advertisement that `target` is at `mac`, with the checksum field as given. -/
def message (target : Ipv6) (mac : Mac) (checksum : Nat) : Access Bytes :=
  Bytes.filled 32
    [(0, [advertisement]), (1, [0]), (4, [solicitedOverride, 0, 0, 0]), (8, target.bytes),
      (24, [2]), (25, [1]), (26, mac.bytes), (2, Bytes.ofWord checksum)]

/-- The checksum of a message that is sent with the checksum field zero. -/
def checksum (source destination : Ipv6) (message : Bytes) : Nat :=
  Checksum.complement
    (Checksum.sum
      (Ipv6Packet.pseudoHeader source destination message.length Ipv6Packet.icmp ++ message))

/-- Writes the advertisement, sent to `receiver` from the announced address, that `target` is at
`mac`. -/
def write (target receiver : Ipv6) (mac : Mac) : Access Bytes := do
  let unsummed ← message target mac 0
  let summed ← message target mac (checksum target receiver unsummed)
  Ipv6Packet.write ⟨target, receiver, Ipv6Packet.icmp, 255, summed⟩

end Neighbours.Frame.DiscoveryPacket
