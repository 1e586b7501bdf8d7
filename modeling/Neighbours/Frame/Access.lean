import Neighbours.Octets

/-! Access to parts of an octet string. Every read and every write states its position, and one that
leaves the buffer has an outcome of its own, so that its absence is a statement about the result of
a decoder or an encoder. -/

namespace Neighbours

/-- Why an octet string was not decoded: it is nothing the decoder accepts, or the decoder reached
outside the buffer. -/
inductive Refusal where
  | unsuited
  | outside
deriving DecidableEq

abbrev Access := Except Refusal

namespace Access

/-- Goes on without what was not accepted; an access outside the buffer stays one. -/
def tolerate {α : Type} : Access α → Access (Option α)
  | .ok a => .ok (some a)
  | .error .unsuited => .ok none
  | .error .outside => .error .outside

end Access

namespace Bytes

/-- The octets from position `start` up to position `stop`. -/
def window (bytes : Bytes) (start stop : Nat) : Access Bytes :=
  if start ≤ stop ∧ stop ≤ bytes.length then .ok ((bytes.drop start).take (stop - start))
  else .error .outside

def octetAt (bytes : Bytes) (position : Nat) : Access UInt8 :=
  match bytes[position]? with
  | some octet => .ok octet
  | none => .error .outside

/-- The `n` octets from position `start` on. -/
def octetsAt (n : Nat) (bytes : Bytes) (start : Nat) : Access (Octets n) :=
  if h : start + n ≤ bytes.length then
    .ok ⟨(bytes.drop start).take n, by rw [List.length_take, List.length_drop]; omega⟩
  else .error .outside

def wordAt (bytes : Bytes) (position : Nat) : Access Nat := do
  let high ← octetAt bytes position
  let low ← octetAt bytes (position + 1)
  return word high low

/-- Overwrites the octets from position `start` on. -/
def put (bytes : Bytes) (start : Nat) (content : Bytes) : Access Bytes :=
  if start + content.length ≤ bytes.length then
    .ok (bytes.take start ++ content ++ bytes.drop (start + content.length))
  else .error .outside

/-- Overwrites several parts of a buffer, one after the other. -/
def putAll (bytes : Bytes) : List (Nat × Bytes) → Access Bytes
  | [] => .ok bytes
  | (start, content) :: rest => (put bytes start content).bind fun bytes => putAll bytes rest

/-- A buffer of `size` octets, zero where nothing is written. -/
def filled (size : Nat) (parts : List (Nat × Bytes)) : Access Bytes :=
  putAll (List.replicate size 0) parts

end Bytes

end Neighbours
