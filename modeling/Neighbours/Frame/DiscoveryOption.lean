import Neighbours.Frame.Ipv6Packet

/-! Options of neighbour discovery messages. An option states its kind and its size in units of
eight octets. An option of size zero, one that does not fit the octets that remain, and one too
short for its kind make the whole message unreadable. An option of a known kind but an unusual size
is passed over. -/

namespace Neighbours.Frame

inductive DiscoveryOption where
  | sourceAddress (octets : Bytes)
  | targetAddress (octets : Bytes)
  | network (bits flags : UInt8) (valid preferred : Bytes) (address : Ipv6)
  | redirected (packet : Ipv6Packet)
  | largestUnit (octets : Bytes)
  | other (kind : UInt8) (content : Bytes)
deriving DecidableEq

namespace DiscoveryOption

/-- The least number of octets of a kind of option: a network option has a fixed header, and a
redirected packet has at least an IPv6 header. -/
def leastSize (kind : UInt8) : Nat :=
  if kind = 3 then 32 else if kind = 4 then 48 else 0

/-- The content of an option of a given kind and number of units, where `octets` starts with the
option. -/
def content (octets : Bytes) (kind : UInt8) (units : Nat) : Access DiscoveryOption :=
  if kind = 1 then
    if units = 1 then (octets.window 2 8).map sourceAddress else .error .unsuited
  else if kind = 2 then
    if units = 1 then (octets.window 2 8).map targetAddress else .error .unsuited
  else if kind = 3 then
    if units = 4 then do
      let bits ← octets.octetAt 2
      let flags ← octets.octetAt 3
      let valid ← octets.window 4 8
      let preferred ← octets.window 8 12
      let address ← octets.octetsAt 16 16
      return network bits flags valid preferred address
    else .error .unsuited
  else if kind = 4 then do
    let packet ← octets.window 8 (8 * units)
    (Ipv6Packet.read packet).map redirected
  else if kind = 5 then
    if units = 1 then (octets.window 4 8).map largestUnit else .error .unsuited
  else if units = 0 then .error .unsuited
  else (octets.window 2 (8 * units)).map (other kind)

/-- The option at the start of `octets`, if its content is understood, and its number of units. -/
def read (octets : Bytes) : Access (Option DiscoveryOption × Nat) :=
  if octets.length < 8 then .error .unsuited
  else do
    let kind ← octets.octetAt 0
    let units ← octets.octetAt 1
    let size := 8 * units.toNat
    if octets.length < size then .error .unsuited
    else if size < leastSize kind then .error .unsuited
    else do
      let option ← (content octets kind units.toNat).tolerate
      return (option, units.toNat)

/-- All options of a message, without those passed over. -/
def readAll (octets : Bytes) : Access (List DiscoveryOption) :=
  match octets with
  | [] => .ok []
  | first :: more =>
    match read (first :: more) with
    | .error refusal => .error refusal
    | .ok (_, 0) => .error .unsuited
    | .ok (option, units + 1) =>
      (readAll ((first :: more).drop (8 * (units + 1)))).map (option.toList ++ ·)
termination_by octets.length
decreasing_by
  simp only [List.length_drop, List.length_cons]
  omega

end DiscoveryOption

end Neighbours.Frame
