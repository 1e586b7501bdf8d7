import Neighbours.Ip
import Neighbours.Mac

/-! Neighbour messages: the questions and answers by which hosts learn each other's hardware
addresses, in ARP for IPv4 and in neighbour discovery for IPv6. -/

namespace Neighbours

inductive Direction where
  | request
  | reply
deriving DecidableEq

structure Arp where
  direction : Direction
  senderMac : Mac
  senderIp : Ipv4
  targetMac : Mac
  targetIp : Ipv4
deriving DecidableEq

/-- A neighbour solicitation, which is a request, or a neighbour advertisement, which is a reply. -/
structure Discovery where
  direction : Direction
  source : Ipv6
  destination : Ipv6
  target : Ipv6
deriving DecidableEq

inductive Message where
  | arp (packet : Arp)
  | discovery (packet : Discovery)
deriving DecidableEq

def Direction.text : Direction → String
  | request => "Request"
  | reply => "Reply"

namespace Message

def protocol : Message → String
  | arp _ => "ARP"
  | discovery _ => "NDP"

def direction : Message → Direction
  | arp packet => packet.direction
  | discovery packet => packet.direction

/-- The address that is asked for or announced. -/
def target : Message → Ip
  | arp packet => .v4 packet.targetIp
  | discovery packet => .v6 packet.target

/-- The address of the host that sent the message. -/
def sender : Message → Ip
  | arp packet => .v4 packet.senderIp
  | discovery packet => .v6 packet.source

end Message

end Neighbours
