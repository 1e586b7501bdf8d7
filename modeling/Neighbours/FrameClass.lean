import Neighbours.Frame.DiscoveryPacket
import Neighbours.Frame.Ethernet

/-! The classes of frames that can be requested from the packet transport, each told apart by header
fields. -/

namespace Neighbours

inductive FrameClass where
  | arp
  | solicitation
  | advertisement
deriving DecidableEq

namespace FrameClass

/-- The classes of neighbour discovery. -/
def discovery : List FrameClass :=
  [solicitation, advertisement]

def all : List FrameClass :=
  arp :: discovery

def isDiscovery : FrameClass → Bool
  | arp => false
  | solicitation | advertisement => true

def frameKind : FrameClass → Nat
  | arp => Frame.Ethernet.arpKind
  | solicitation | advertisement => Frame.Ethernet.ipv6Kind

def nextHeader? : FrameClass → Option UInt8
  | arp => none
  | solicitation | advertisement => some Frame.Ipv6Packet.icmp

def icmpKind? : FrameClass → Option UInt8
  | arp => none
  | solicitation => some Frame.DiscoveryPacket.solicitation
  | advertisement => some Frame.DiscoveryPacket.advertisement

/-- The frame kind in four hexadecimal digits, then the other fields in decimal. -/
def text (frameClass : FrameClass) : String :=
  let kind := String.ofList ((Bytes.ofWord frameClass.frameKind).flatMap Numeral.hexPair)
  let nextHeader := frameClass.nextHeader?.elim "" fun value => s!",ip_proto={value.toNat}"
  let icmpKind := frameClass.icmpKind?.elim "" fun value => s!",icmpv6_type={value.toNat}"
  s!"eth_type=0x{kind}{nextHeader}{icmpKind}"

end FrameClass

end Neighbours
