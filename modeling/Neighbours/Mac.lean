import Neighbours.Octets
import Neighbours.ValueFault

/-! Ethernet hardware addresses and their text. An address is written as six two-digit groups joined
by colons. It is read from six groups joined all by colons or all by hyphens; a text that holds a
colon anywhere is split at its colons only. -/

namespace Neighbours

abbrev Mac := Octets 6

namespace Mac

def broadcast : Mac := Octets.replicate 6 0xff

def zero : Mac := Octets.replicate 6 0

/-- Group addresses have the lowest bit of their first octet set. -/
def isMulticast (mac : Mac) : Bool :=
  mac.bytes.head?.any fun first => first.toNat % 2 == 1

def isBroadcast (mac : Mac) : Bool :=
  mac == broadcast

def isZero (mac : Mac) : Bool :=
  mac == zero

/-- The address in the first six octets of a longer string. -/
def ofLeading? (bytes : Bytes) : Option Mac :=
  Octets.ofBytes? 6 (bytes.take 6)

def letters (mac : Mac) : List Char :=
  [':'].intercalate (mac.bytes.map Numeral.hexPair)

def text (mac : Mac) : String :=
  String.ofList mac.letters

/-- The character that separates the groups of an address text. -/
def separator (letters : List Char) : Char :=
  if ':' ∈ letters then ':' else '-'

/-- A group has one or two characters; with two the first may be a plus sign. -/
def group? (letters : List Char) : Option UInt8 :=
  if letters.length ≤ 2 then (Numeral.signed? 16 letters).map UInt8.ofNat else none

def ofLetters? (letters : List Char) : Option Mac :=
  ((letters.splitOn (separator letters)).mapM group?).bind (Octets.ofBytes? 6)

def ofText (text : String) : Except ValueFault Mac :=
  match ofLetters? text.toList with
  | some mac => .ok mac
  | none => .error (.mac text)

end Mac

end Neighbours
