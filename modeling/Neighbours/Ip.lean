import Neighbours.Octets

/-! Network addresses and their text. IPv4 addresses are dotted decimals. IPv6 addresses are eight
lower-case hexadecimal groups, with the first of the longest runs of two or more zero groups
shortened to `::`; an address that embeds an IPv4 address shows it in dotted form. -/

namespace Neighbours

abbrev Ipv4 := Octets 4

abbrev Ipv6 := Octets 16

inductive Ip where
  | v4 (address : Ipv4)
  | v6 (address : Ipv6)
deriving DecidableEq

def dotted (bytes : Bytes) : List Char :=
  ['.'].intercalate (bytes.map fun octet => Numeral.decimal octet.toNat)

def Ipv4.letters (address : Ipv4) : List Char :=
  dotted address.bytes

namespace Ipv6

/-- The IPv4 address that an address of the form `::ffff:a.b.c.d` embeds. -/
def embedded? (address : Ipv6) : Option Bytes :=
  if address.bytes.take 12 = List.replicate 10 0 ++ [0xff, 0xff] then some (address.bytes.drop 12)
  else none

/-- Start and length of the first longest run of zero groups. -/
def longestZeroRun (groups : List Nat) : Nat × Nat :=
  (List.range groups.length).foldl
    (fun best start =>
      let run := ((groups.drop start).takeWhile (· == 0)).length
      if best.2 < run then (start, run) else best)
    (0, 0)

def joined (groups : List Nat) : List Char :=
  [':'].intercalate (groups.map Numeral.hexadecimal)

def letters (address : Ipv6) : List Char :=
  match address.embedded? with
  | some ipv4 => "::ffff:".toList ++ dotted ipv4
  | none =>
    let groups := Bytes.words address.bytes
    let (start, run) := longestZeroRun groups
    if 2 ≤ run then joined (groups.take start) ++ "::".toList ++ joined (groups.drop (start + run))
    else joined groups

end Ipv6

namespace Ip

def bytes : Ip → Bytes
  | v4 address => address.bytes
  | v6 address => address.bytes

def text : Ip → String
  | v4 address => String.ofList address.letters
  | v6 address => String.ofList address.letters

/-- An octet string of four or sixteen octets is an address. -/
def ofBytes? (bytes : Bytes) : Option Ip :=
  ((Octets.ofBytes? 4 bytes).map v4).or ((Octets.ofBytes? 16 bytes).map v6)

end Ip

end Neighbours
