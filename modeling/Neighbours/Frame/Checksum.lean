import Neighbours.Octets

/-! The Internet checksum: the complement of the one's-complement sum of sixteen-bit words. -/

namespace Neighbours.Checksum

/-- The sum of two words with the carry added back at the low end. -/
def addWithCarry (a b : Nat) : Nat :=
  if a + b < 65536 then a + b else a + b - 65535

def sum (bytes : Bytes) : Nat :=
  bytes.words.foldl addWithCarry 0

def complement (word : Nat) : Nat :=
  65535 - word

end Neighbours.Checksum
