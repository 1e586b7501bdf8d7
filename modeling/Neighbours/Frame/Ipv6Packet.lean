import Neighbours.Frame.Access
import Neighbours.Ip

/-! IPv6 packets without extension headers. The payload is as long as the header declares; what
follows it in the buffer is not part of the packet. The version field is not checked. -/

namespace Neighbours.Frame

structure Ipv6Packet where
  source : Ipv6
  destination : Ipv6
  nextHeader : UInt8
  hopLimit : UInt8
  payload : Bytes
deriving DecidableEq

namespace Ipv6Packet

/-- The next-header value of ICMP for IPv6. -/
def icmp : UInt8 := 58

def read (packet : Bytes) : Access Ipv6Packet :=
  if packet.length < 40 then .error .unsuited
  else do
    let size ← packet.wordAt 4
    if packet.length < 40 + size then .error .unsuited
    else do
      let nextHeader ← packet.octetAt 6
      let hopLimit ← packet.octetAt 7
      let source ← packet.octetsAt 16 8
      let destination ← packet.octetsAt 16 24
      let payload ← packet.window 40 (40 + size)
      return ⟨source, destination, nextHeader, hopLimit, payload⟩

/-- The traffic class and the flow label are zero. -/
def write (packet : Ipv6Packet) : Access Bytes :=
  Bytes.filled (40 + packet.payload.length)
    [(0, [0x60, 0, 0, 0]), (4, Bytes.ofWord packet.payload.length), (6, [packet.nextHeader]),
      (7, [packet.hopLimit]), (8, packet.source.bytes), (24, packet.destination.bytes),
      (40, packet.payload)]

/-- The addresses, the payload length and the protocol, as the checksum of a payload covers them. -/
def pseudoHeader (source destination : Ipv6) (size : Nat) (nextHeader : UInt8) : Bytes :=
  source.bytes ++ destination.bytes ++ [0, 0] ++ Bytes.ofWord size ++ [0, 0, 0, nextHeader]

end Ipv6Packet

end Neighbours.Frame
