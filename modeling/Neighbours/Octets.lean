import Neighbours.Numeral

/-! Octet strings. Frames are lists of octets of any length; addresses are octet strings whose
length is part of their type. -/

namespace Neighbours

abbrev Bytes := List UInt8

/-- An octet string of exactly `n` octets. -/
structure Octets (n : Nat) where
  bytes : Bytes
  length_bytes : bytes.length = n
deriving DecidableEq

namespace Octets

variable {n : Nat}

def ofBytes? (n : Nat) (bytes : Bytes) : Option (Octets n) :=
  if h : bytes.length = n then some ⟨bytes, h⟩ else none

def replicate (n : Nat) (octet : UInt8) : Octets n :=
  ⟨List.replicate n octet, List.length_replicate⟩

@[ext]
theorem ext {left right : Octets n} (h : left.bytes = right.bytes) : left = right := by
  cases left; cases right; cases h; rfl

@[simp]
theorem length_eq (octets : Octets n) : octets.bytes.length = n :=
  octets.length_bytes

@[simp]
theorem ofBytes?_bytes (octets : Octets n) : ofBytes? n octets.bytes = some octets := by
  simp [ofBytes?]

theorem bytes_of_ofBytes? {bytes : Bytes} {octets : Octets n} (h : ofBytes? n bytes = some octets) :
    octets.bytes = bytes := by
  unfold ofBytes? at h
  split at h
  · cases h; rfl
  · cases h

end Octets

namespace Bytes

/-- The two-digit lower-case hexadecimal text of an octet string. -/
def hex (bytes : Bytes) : String :=
  String.ofList (bytes.flatMap Numeral.hexPair)

/-- The number that two octets denote, most significant first. -/
def word (high low : UInt8) : Nat :=
  high.toNat * 256 + low.toNat

/-- An octet string as sixteen-bit words; an odd last octet is the high half of its word. -/
def words : Bytes → List Nat
  | high :: low :: rest => word high low :: words rest
  | [high] => [word high 0]
  | [] => []

/-- A number below `2 ^ 16` as two octets, most significant first. -/
def ofWord (w : Nat) : Bytes :=
  [UInt8.ofNat (w / 256), UInt8.ofNat (w % 256)]

@[simp]
theorem length_ofWord (w : Nat) : (ofWord w).length = 2 := by
  simp [ofWord]

theorem word_ofWord {w : Nat} (h : w < 65536) :
    word (UInt8.ofNat (w / 256)) (UInt8.ofNat (w % 256)) = w := by
  simp only [word, UInt8.toNat_ofNat']
  omega

end Bytes

end Neighbours
