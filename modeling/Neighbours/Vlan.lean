import Neighbours.Octets
import Neighbours.Text.Cut
import Neighbours.ValueFault

/-! VLAN identifiers. The values 0 and 4095 are reserved, so an identifier lies in 1..4094. It is
read from a decimal number, which may follow the label `vlan` in either case. -/

namespace Neighbours

structure Vlan where
  id : Nat
  pos : 0 < id
  le_max : id ≤ 4094
deriving DecidableEq

namespace Vlan

def ofId? (id : Nat) : Option Vlan :=
  if h : 0 < id ∧ id ≤ 4094 then some ⟨id, h.1, h.2⟩ else none

def ofId (id : Nat) : Except ValueFault Vlan :=
  match ofId? id with
  | some vlan => .ok vlan
  | none => .error (.vlan id)

/-- The identifier in the low twelve bits of a tag's control word. -/
def ofControlWord? (word : Nat) : Option Vlan :=
  ofId? (word % 4096)

def letters (vlan : Vlan) : List Char :=
  Numeral.decimal vlan.id

def text (vlan : Vlan) : String :=
  String.ofList vlan.letters

/-- The text behind the label `vlan`, or the whole text if it has no such label. The label is looked for in
the first four octets, and there is no result if the text cannot be cut behind it. -/
def afterLabel? (text : String) : Option String :=
  match Text.before? text 4 with
  | some label =>
    if label.toList.map Char.toLower = ['v', 'l', 'a', 'n'] then Text.behind? text 4 else some text
  | none => some text

/-- The number that a text denotes behind its label. -/
def number? (text : String) : Option Nat :=
  (afterLabel? text).bind fun number => Numeral.signed? 10 number.toList

/-- A text that is no number below `2 ^ 16` is refused as the reserved identifier 0. -/
def ofText (text : String) : Except ValueFault Vlan :=
  match number? text with
  | some id => if id < 65536 then ofId id else .error (.vlan 0)
  | none => .error (.vlan 0)

@[simp]
theorem ofId?_id (vlan : Vlan) : ofId? vlan.id = some vlan := by
  simp [ofId?, vlan.pos, vlan.le_max]

theorem ofId?_eq_some_iff {id : Nat} {vlan : Vlan} : ofId? id = some vlan ↔ vlan.id = id := by
  constructor
  · intro h
    unfold ofId? at h
    split at h
    · cases h; rfl
    · cases h
  · rintro rfl
    exact ofId?_id vlan

end Vlan

end Neighbours
