import Neighbours.Numeral

/-! Numbers of TOML documents. Digits may be grouped by single underscores. Integers are decimal,
with a sign if wanted, or hexadecimal, octal or binary; they have to fit 128 bits. Fractions are
only recognised; one too large for a binary double is refused. -/

namespace Neighbours.Toml.Number

/-- Digits without the underscores between them. -/
def ungroup? (isDigit : Char → Bool) : List Char → Option (List Char)
  | [] => none
  | [c] => if isDigit c then some [c] else none
  | c :: '_' :: rest => if isDigit c then (ungroup? isDigit rest).map (c :: ·) else none
  | c :: rest => if isDigit c then (ungroup? isDigit rest).map (c :: ·) else none

/-- A digit of a base, for the bases with a letter of their own. -/
def isDigitOf (base : Nat) (c : Char) : Bool :=
  (Numeral.digit? base c).isSome

/-- Decimal digits without a superfluous zero in front. -/
def whole? (letters : List Char) : Option (List Char) := do
  let digits ← ungroup? Char.isDigit letters
  if digits.head? = some '0' ∧ digits ≠ ['0'] then none else some digits

def inBase? (base : Nat) (letters : List Char) : Option Nat :=
  (ungroup? (isDigitOf base) letters).bind (Numeral.unsigned? base)

def decimal? (letters : List Char) : Option Nat :=
  (whole? letters).bind (Numeral.unsigned? 10)

def signed? : List Char → Option Int
  | '0' :: 'x' :: rest => (inBase? 16 rest).map Int.ofNat
  | '0' :: 'o' :: rest => (inBase? 8 rest).map Int.ofNat
  | '0' :: 'b' :: rest => (inBase? 2 rest).map Int.ofNat
  | '+' :: rest => (decimal? rest).map Int.ofNat
  | '-' :: rest => (decimal? rest).map fun n => -Int.ofNat n
  | letters => (decimal? letters).map Int.ofNat

/-- An integer, and whether it fits 128 bits, with or without a sign. -/
def integer? (letters : List Char) : Option (Int × Bool) :=
  (signed? letters).map fun n => (n, decide (-Int.pow 2 127 ≤ n ∧ n < Int.pow 2 128))

/-- The least number that a binary double rounds to infinity. -/
def overflowLimit : Nat := Nat.pow 2 1024 - Nat.pow 2 970

/-- Whether `coefficient * 10 ^ exponent` is too large for a binary double. Numbers with few or many
digits before the point are decided without computing the power. -/
def overflows (coefficient : Nat) (exponent : Int) : Bool :=
  if coefficient = 0 then false
  else
    let places := (Numeral.decimal coefficient).length + exponent
    if places < 300 then false
    else if 310 < places then true
    else if 0 ≤ exponent then decide (overflowLimit ≤ coefficient * Nat.pow 10 exponent.toNat)
    else decide (overflowLimit * Nat.pow 10 (-exponent).toNat ≤ coefficient)

def afterSign : List Char → List Char
  | '+' :: rest | '-' :: rest => rest
  | letters => letters

/-- The digits after the point, if there is one. -/
def fraction? (letters : List Char) : Option (List Char) :=
  match letters with
  | [] => some []
  | '.' :: rest => ungroup? Char.isDigit rest
  | _ => none

/-- The exponent, if there is one. -/
def exponent? (letters : List Char) : Option Int :=
  match letters with
  | [] => some 0
  | _ :: '-' :: rest =>
    ((ungroup? Char.isDigit rest).bind (Numeral.unsigned? 10)).map fun n => -Int.ofNat n
  | _ :: rest =>
    ((ungroup? Char.isDigit (afterSign rest)).bind (Numeral.unsigned? 10)).map Int.ofNat

/-- A number with a fraction, an exponent or both, that a binary double can approximate. -/
def isFinite (letters : List Char) : Bool :=
  let (mantissa, power) := letters.span fun c => c != 'e' && c != 'E'
  let (whole, point) := mantissa.span (· != '.')
  let parts := do
    let whole ← whole? whole
    let fraction ← fraction? point
    let exponent ← exponent? power
    let coefficient ← Numeral.unsigned? 10 (whole ++ fraction)
    return (coefficient, exponent - Int.ofNat fraction.length)
  match parts with
  | some (coefficient, exponent) => !overflows coefficient exponent
  | none => false

def isFraction (letters : List Char) : Bool :=
  let unsigned := afterSign letters
  unsigned == ['i', 'n', 'f'] || unsigned == ['n', 'a', 'n'] || isFinite unsigned

end Neighbours.Toml.Number
