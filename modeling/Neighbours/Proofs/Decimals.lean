import Mathlib.Data.Nat.Digits.Defs
import Mathlib.Tactic.Ring
import Neighbours.Proofs.JsonText

/-! Decimal numerals. What a reader takes for a number is said here without the reader: one or more digits,
the value of which is their sum in powers of ten, and perhaps a plus sign in front of them. Among the
numerals of a number the written one is that without superfluous zeros. -/

namespace Neighbours.Numeral

/-- One or more decimal digits, the most significant first, and the number they denote. -/
structure IsDecimal (letters : List Char) (n : Nat) : Prop where
  ne_nil : letters ≠ []
  isDigit : ∀ c ∈ letters, c.isDigit = true
  value : Nat.ofDigits 10 (letters.map fun c => c.toNat - 48).reverse = n

/-- A decimal with or without a plus sign. -/
def IsSigned (letters : List Char) (n : Nat) : Prop :=
  ∃ digits, (letters = digits ∨ letters = '+' :: digits) ∧ IsDecimal digits n

/-- A digit is the numeral of its value. -/
theorem decimal_of_isDigit {c : Char} (h : c.isDigit = true) : decimal (c.toNat - 48) = [c] := by
  obtain ⟨hlow, hhigh⟩ := isDigit_iff.mp h
  have hlt : c.toNat - 48 < 10 := by omega
  have hletter : Nat.digitChar (c.toNat - 48) = c := by
    apply Char.toNat_inj.mp
    rw [Nat.toNat_digitChar_of_lt_ten hlt]
    omega
  rw [decimal, Nat.toDigits_of_lt_base hlt, hletter]

theorem digit?_ten_eq_some_iff {c : Char} {d : Nat} :
    digit? 10 c = some d ↔ c.isDigit = true ∧ c.toNat - 48 = d := by
  have hbounds : '0'.toNat = 48 ∧ '9'.toNat = 57 ∧ 'a'.toNat = 97 ∧ 'A'.toNat = 65 := by decide
  rw [isDigit_iff, digit?, digitValue?]
  simp only [between_iff, hbounds]
  split
  · next hdigit =>
      rw [Option.filter_some]
      have hlt : c.toNat - 48 < 10 := by omega
      simp [hlt, hdigit]
  · next hdigit =>
      -- A letter has a value of ten or more, so it is no digit here.
      constructor
      · intro h
        obtain ⟨hvalue, hlt⟩ := Option.filter_eq_some_iff.mp h
        rw [decide_eq_true_eq] at hlt
        split at hvalue
        · have := Option.some.inj hvalue
          omega
        · split at hvalue
          · have := Option.some.inj hvalue
            omega
          · cases hvalue
      · rintro ⟨hd, -⟩
        exact absurd hd hdigit

/-- Digits are read from the left, their value is a sum from the right. -/
theorem continue?_eq_some_iff {acc n : Nat} {letters : List Char} :
    continue? 10 acc letters = some n ↔ (∀ c ∈ letters, c.isDigit = true) ∧
      acc * 10 ^ letters.length +
        Nat.ofDigits 10 (letters.map fun c => c.toNat - 48).reverse = n := by
  induction letters generalizing acc with
  | nil => simp [continue?, Nat.ofDigits_nil]
  | cons c cs ih =>
      have hvalue : acc * 10 ^ (c :: cs).length +
            Nat.ofDigits 10 ((c :: cs).map fun c => c.toNat - 48).reverse =
          (acc * 10 + (c.toNat - 48)) * 10 ^ cs.length +
            Nat.ofDigits 10 (cs.map fun c => c.toNat - 48).reverse := by
        rw [List.map_cons, Nat.ofDigits_reverse_cons, List.length_map, List.length_cons, Nat.pow_succ]
        ring
      rw [hvalue, List.forall_mem_cons, continue?, Option.bind_eq_some_iff]
      constructor
      · rintro ⟨d, hd, hrest⟩
        obtain ⟨hdigit, rfl⟩ := digit?_ten_eq_some_iff.mp hd
        obtain ⟨hdigits, hn⟩ := ih.mp hrest
        exact ⟨⟨hdigit, hdigits⟩, hn⟩
      · rintro ⟨⟨hdigit, hdigits⟩, hn⟩
        exact ⟨_, digit?_ten_eq_some_iff.mpr ⟨hdigit, rfl⟩, ih.mpr ⟨hdigits, hn⟩⟩

theorem unsigned?_eq_some_iff {letters : List Char} {n : Nat} :
    unsigned? 10 letters = some n ↔ IsDecimal letters n := by
  cases letters with
  | nil =>
      constructor
      · intro h
        cases h
      · intro h
        exact absurd rfl h.ne_nil
  | cons c cs =>
      rw [unsigned?, continue?_eq_some_iff, Nat.zero_mul, Nat.zero_add]
      exact ⟨fun h => ⟨List.cons_ne_nil _ _, h.1, h.2⟩, fun h => ⟨h.isDigit, h.value⟩⟩

theorem IsDecimal.head?_ne {letters : List Char} {n : Nat} (h : IsDecimal letters n) {c : Char}
    (hc : c.isDigit = false) : letters.head? ≠ some c := by
  intro hhead
  have hdigit := h.isDigit c (List.mem_of_head? hhead)
  rw [hc] at hdigit
  cases hdigit

theorem signed?_eq_some_iff {letters : List Char} {n : Nat} :
    signed? 10 letters = some n ↔ IsSigned letters n := by
  constructor
  · intro h
    by_cases hsign : letters.head? = some '+'
    · obtain ⟨digits, rfl⟩ := List.head?_eq_some_iff.mp hsign
      exact ⟨digits, Or.inr rfl, unsigned?_eq_some_iff.mp h⟩
    · rw [signed?_of_head?_ne hsign] at h
      exact ⟨letters, Or.inl rfl, unsigned?_eq_some_iff.mp h⟩
  · rintro ⟨digits, rfl | rfl, hdigits⟩
    · rw [signed?_of_head?_ne (hdigits.head?_ne rfl)]
      exact unsigned?_eq_some_iff.mpr hdigits
    · exact unsigned?_eq_some_iff.mpr hdigits

theorem isDecimal_decimal (n : Nat) : IsDecimal (decimal n) n :=
  unsigned?_eq_some_iff.mp (unsigned?_decimal n)

/-- The digits that follow a positive number go on with its written ones. -/
theorem decimal_append_of_continue? {acc n : Nat} {letters : List Char} (hpos : 0 < acc)
    (h : continue? 10 acc letters = some n) : decimal acc ++ letters = decimal n := by
  induction letters generalizing acc with
  | nil => rw [List.append_nil, Option.some.inj h]
  | cons c cs ih =>
      obtain ⟨d, hd, hrest⟩ := Option.bind_eq_some_iff.mp h
      obtain ⟨hdigit, rfl⟩ := digit?_ten_eq_some_iff.mp hd
      obtain ⟨hlow, hhigh⟩ := isDigit_iff.mp hdigit
      have hlt : c.toNat - 48 < 10 := by omega
      calc decimal acc ++ c :: cs
          = decimal acc ++ decimal (c.toNat - 48) ++ cs := by
            rw [decimal_of_isDigit hdigit, List.append_assoc, List.singleton_append]
        _ = decimal (acc * 10 + (c.toNat - 48)) ++ cs := by
            rw [decimal, decimal, Nat.toDigits_append_toDigits (by decide) hpos hlt, Nat.mul_comm 10]
            rfl
        _ = decimal n := ih (by omega) hrest

/-- A decimal is the written one exactly if there is no superfluous zero in front. -/
theorem IsDecimal.decimal_eq_iff {letters : List Char} {n : Nat} (h : IsDecimal letters n) :
    decimal n = letters ↔ (letters.head? = some '0' → letters = ['0']) := by
  constructor
  · rintro rfl hhead
    exact decimal_eq_of_head? hhead
  · intro hzero
    have hread := unsigned?_eq_some_iff.mpr h
    cases letters with
    | nil => exact absurd rfl h.ne_nil
    | cons c cs =>
        obtain ⟨d, hd, hrest⟩ := Option.bind_eq_some_iff.mp hread
        obtain ⟨hdigit, rfl⟩ := digit?_ten_eq_some_iff.mp hd
        rw [Nat.zero_mul, Nat.zero_add] at hrest
        by_cases hc : c = '0'
        · subst hc
          cases (List.cons.inj (hzero rfl)).2
          rw [← Option.some.inj hrest]
          rfl
        · have hpos : 0 < c.toNat - 48 := by
            obtain ⟨hlow, -⟩ := isDigit_iff.mp hdigit
            have hne : c.toNat ≠ 48 := fun heq => hc (Char.toNat_inj.mp heq)
            omega
          rw [← decimal_append_of_continue? hpos hrest, decimal_of_isDigit hdigit,
            List.singleton_append]

theorem not_mem_decimal {c : Char} (hc : c.isDigit = false) (n : Nat) : c ∉ decimal n := by
  intro hmem
  rw [isDigit_of_mem_decimal hmem] at hc
  cases hc

/-- A numeral is the written one exactly if there is neither a sign nor a superfluous zero. -/
theorem IsSigned.decimal_eq_iff {letters : List Char} {n : Nat} (h : IsSigned letters n) :
    decimal n = letters ↔ '+' ∉ letters ∧ (letters.head? = some '0' → letters = ['0']) := by
  obtain ⟨digits, rfl | rfl, hdigits⟩ := h
  · rw [hdigits.decimal_eq_iff, and_iff_right]
    intro hsign
    cases hdigits.isDigit '+' hsign
  · constructor
    · intro heq
      exact absurd (heq ▸ List.mem_cons_self) (not_mem_decimal rfl n)
    · rintro ⟨hsign, -⟩
      exact absurd List.mem_cons_self hsign

end Neighbours.Numeral
