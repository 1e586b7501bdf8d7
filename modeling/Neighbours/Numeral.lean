/-! Numerals in text. A number is written in decimal without superfluous zeros; octets are written
as two lower-case hexadecimal digits. Readers are more generous than writers: leading zeros are
allowed, hexadecimal letters may have either case, and one plus sign may stand in front. -/

namespace Neighbours.Numeral

/-- The value of a hexadecimal digit; letters count in either case. -/
def digitValue? (c : Char) : Option Nat :=
  if '0' ≤ c ∧ c ≤ '9' then some (c.toNat - 48)
  else if 'a' ≤ c ∧ c ≤ 'f' then some (c.toNat - 87)
  else if 'A' ≤ c ∧ c ≤ 'F' then some (c.toNat - 55)
  else none

/-- The value of a digit of `base`, which is at most sixteen. -/
def digit? (base : Nat) (c : Char) : Option Nat :=
  (digitValue? c).filter (· < base)

/-- Continues a numeral whose digits so far denote `acc`. -/
def continue? (base : Nat) (acc : Nat) : List Char → Option Nat
  | [] => some acc
  | c :: cs => (digit? base c).bind fun d => continue? base (acc * base + d) cs

/-- The number that one or more digits denote. -/
def unsigned? (base : Nat) : List Char → Option Nat
  | [] => none
  | c :: cs => continue? base 0 (c :: cs)

/-- The number that digits denote, with or without one plus sign in front. -/
def signed? (base : Nat) : List Char → Option Nat
  | '+' :: cs => unsigned? base cs
  | cs => unsigned? base cs

/-- The decimal digits of a number, without superfluous zeros. -/
def decimal (n : Nat) : List Char :=
  Nat.toDigits 10 n

/-- The lower-case hexadecimal digits of a number, without superfluous zeros. -/
def hexadecimal (n : Nat) : List Char :=
  Nat.toDigits 16 n

/-- An octet as two lower-case hexadecimal digits. -/
def hexPair (octet : UInt8) : List Char :=
  [Nat.digitChar (octet.toNat / 16), Nat.digitChar (octet.toNat % 16)]

/-- A range of characters is one of their codes. -/
theorem between_iff {low high c : Char} :
    low ≤ c ∧ c ≤ high ↔ low.toNat ≤ c.toNat ∧ c.toNat ≤ high.toNat := by
  simp only [Char.le_def, UInt32.le_iff_toNat_le]
  exact Iff.rfl

/-- A sign is looked for only where there is one. -/
theorem signed?_of_head?_ne {base : Nat} {letters : List Char} (h : letters.head? ≠ some '+') :
    signed? base letters = unsigned? base letters := by
  unfold signed?
  split
  · exact absurd rfl h
  · rfl

theorem digitValue?_digitChar : ∀ d < 16, digitValue? (Nat.digitChar d) = some d := by decide

theorem digit?_digitChar {base d : Nat} (hd : d < base) (hbase : base ≤ 16) :
    digit? base d.digitChar = some d := by
  simp [digit?, digitValue?_digitChar d (by omega), hd]

theorem continue?_append (base acc : Nat) (left right : List Char) :
    continue? base acc (left ++ right) =
      (continue? base acc left).bind fun acc => continue? base acc right := by
  induction left generalizing acc with
  | nil => rfl
  | cons c cs ih =>
    simp only [List.cons_append, continue?]
    cases digit? base c with
    | none => rfl
    | some d => exact ih _

/-- Written digits denote the number they were written for. -/
theorem continue?_toDigits {base : Nat} (hbase : 1 < base) (hle : base ≤ 16) (n : Nat) :
    continue? base 0 (Nat.toDigits base n) = some n := by
  induction n using Nat.strongRecOn with
  | ind n ih =>
    by_cases hn : n < base
    · rw [Nat.toDigits_of_lt_base hn]
      simp [continue?, digit?_digitChar hn hle]
    · have hmod : n % base < base := Nat.mod_lt _ (by omega)
      have hdiv : n / base < n := Nat.div_lt_self (by omega) hbase
      rw [Nat.toDigits_of_base_le hbase (by omega), continue?_append, ih _ hdiv]
      simp [continue?, digit?_digitChar hmod hle, Nat.div_add_mod']

theorem unsigned?_toDigits {base : Nat} (hbase : 1 < base) (hle : base ≤ 16) (n : Nat) :
    unsigned? base (Nat.toDigits base n) = some n := by
  have h := continue?_toDigits hbase hle n
  cases hdigits : Nat.toDigits base n with
  | nil => exact absurd hdigits Nat.toDigits_ne_nil
  | cons c cs => rwa [hdigits] at h

theorem unsigned?_decimal (n : Nat) : unsigned? 10 (decimal n) = some n :=
  unsigned?_toDigits (by decide) (by decide) n

theorem unsigned?_hexPair (octet : UInt8) : unsigned? 16 (hexPair octet) = some octet.toNat := by
  have hlt := octet.toNat_lt
  have hhigh : octet.toNat / 16 < 16 := by omega
  have hlow : octet.toNat % 16 < 16 := by omega
  simp only [hexPair, unsigned?, continue?, digit?_digitChar hhigh (Nat.le_refl 16),
    digit?_digitChar hlow (Nat.le_refl 16), Option.bind_some, Option.some.injEq]
  omega

end Neighbours.Numeral
