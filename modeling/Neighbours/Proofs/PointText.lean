import Neighbours.Point
import Neighbours.Proofs.Decimals

/-! The text of attachment points. A device may have any name, slashes included, so a text is split where a
written number cannot be: at its last slash. What stands before is the device, and what stands after has
to be a number; a text names a point exactly if both are there. -/

namespace Neighbours.Point

theorem splitLast?_eq_some_iff {separator : Char} {letters before after : List Char} :
    splitLast? separator letters = some (before, after) ↔
      letters = before ++ separator :: after ∧ separator ∉ after := by
  constructor
  · intro h
    induction letters generalizing before with
    | nil => cases h
    | cons c cs ih =>
        rw [splitLast?] at h
        cases hrest : splitLast? separator cs with
        | some pair =>
            rw [hrest] at h
            cases h
            obtain ⟨hcs, hafter⟩ := ih hrest
            exact ⟨congrArg (c :: ·) hcs, hafter⟩
        | none =>
            simp only [hrest] at h
            by_cases hc : c = separator
            · rw [if_pos hc] at h
              cases h
              exact ⟨congrArg (fun first => first :: after) hc, splitLast?_eq_none_iff.mp hrest⟩
            · rw [if_neg hc] at h
              cases h
  · rintro ⟨rfl, hafter⟩
    exact splitLast?_append hafter

theorem numberOfLetters?_eq_some_iff {letters : List Char} {number : UInt64} :
    numberOfLetters? letters = some number ↔ Numeral.IsSigned letters number.toNat := by
  rw [numberOfLetters?, Option.bind_eq_some_iff, ← Numeral.signed?_eq_some_iff]
  constructor
  · rintro ⟨n, hn, hnumber⟩
    split at hnumber
    · next hlt =>
        cases hnumber
        rwa [UInt64.toNat_ofNat_of_lt' hlt]
    · cases hnumber
  · intro h
    refine ⟨number.toNat, h, ?_⟩
    rw [if_pos number.toNat_lt_size, UInt64.ofNat_toNat]

theorem toList_append_slash (device tail : String) :
    (device ++ "/" ++ tail).toList = device.toList ++ '/' :: tail.toList := by
  rw [String.toList_append, String.toList_append, List.append_assoc]
  rfl

theorem splitLast?_append_slash {device tail : String} (htail : '/' ∉ tail.toList) :
    splitLast? '/' (device ++ "/" ++ tail).toList = some (device.toList, tail.toList) := by
  rw [toList_append_slash]
  exact splitLast?_append htail

theorem ofText_of_device {device tail : String} (hdevice : device ≠ "") (htail : '/' ∉ tail.toList) :
    ofText (device ++ "/" ++ tail) =
      match numberOfLetters? tail.toList with
      | some number => .ok ⟨device, number⟩
      | none => .error (.pointNumber tail) := by
  rw [ofText, splitLast?_append_slash htail]
  cases hletters : device.toList with
  | nil => exact absurd (String.toList_eq_nil_iff.mp hletters) hdevice
  | cons c cs =>
      have hwhole : String.ofList (c :: cs) = device := by
        rw [← hletters, String.ofList_toList]
      simp only [numberOfText, hwhole, String.ofList_toList]
      cases numberOfLetters? tail.toList <;> rfl

theorem ofText_of_no_device {tail : String} (htail : '/' ∉ tail.toList) :
    ofText ("" ++ "/" ++ tail) = .error (.point ("" ++ "/" ++ tail)) := by
  rw [ofText, splitLast?_append_slash htail]
  rfl

theorem ofText_of_not_mem {text : String} (h : '/' ∉ text.toList) :
    ofText text = .error (.point text) := by
  rw [ofText, splitLast?_eq_none_iff.mpr h]

theorem splitLast?_letters (point : Point) :
    splitLast? '/' point.letters = some (point.device.toList, Numeral.decimal point.number.toNat) :=
  splitLast?_append (Numeral.not_mem_decimal rfl _)

/-- The text of a point shows where its number begins, and with that both its parts. -/
theorem text_injective {left right : Point} (h : left.text = right.text) : left = right := by
  have hletters : left.letters = right.letters := String.ofList_injective h
  have hsplit := congrArg (splitLast? '/') hletters
  rw [splitLast?_letters, splitLast?_letters] at hsplit
  obtain ⟨hdevice, hnumber⟩ := Prod.mk.inj (Option.some.inj hsplit)
  have hvalue := congrArg (Numeral.unsigned? 10) hnumber
  rw [Numeral.unsigned?_decimal, Numeral.unsigned?_decimal] at hvalue
  cases left
  cases right
  cases String.toList_injective hdevice
  cases UInt64.toNat_inj.mp (Option.some.inj hvalue)
  rfl

theorem text_eq_append (point : Point) :
    point.text = point.device ++ "/" ++ String.ofList (Numeral.decimal point.number.toNat) := by
  apply String.toList_injective
  rw [text, letters, String.toList_ofList, toList_append_slash, String.toList_ofList]

/-- The text of a point whose number was read from `tail` is the text that was read if the number is
written there as points are written. -/
theorem text_eq_iff {device tail : String} {number : UInt64}
    (h : Numeral.IsSigned tail.toList number.toNat) :
    (Point.mk device number).text = device ++ "/" ++ tail ↔
      '+' ∉ tail.toList ∧ (tail.toList.head? = some '0' → tail = "0") := by
  have hzero : tail.toList = ['0'] ↔ tail = "0" := by
    rw [← String.toList_inj, String.toList_ofList]
  rw [← hzero, ← h.decimal_eq_iff, text_eq_append, String.append_right_inj, ← String.toList_inj,
    String.toList_ofList]

/-- What is read from a text with a device: the number that stands after the last slash is to blame if there
is none. -/
theorem ofText_of_slash {device tail : String} (hdevice : device ≠ "") (htail : '/' ∉ tail.toList) :
    (∀ number : UInt64, Numeral.IsSigned tail.toList number.toNat →
        ofText (device ++ "/" ++ tail) = .ok ⟨device, number⟩) ∧
      ((∀ number : UInt64, ¬ Numeral.IsSigned tail.toList number.toNat) →
        ofText (device ++ "/" ++ tail) = .error (.pointNumber tail)) := by
  have hread := ofText_of_device hdevice htail
  constructor
  · intro number hnumber
    rw [hread, numberOfLetters?_eq_some_iff.mpr hnumber]
  · intro hnone
    have hnumber : numberOfLetters? tail.toList = none :=
      Option.eq_none_iff_forall_ne_some.mpr fun number hnumber =>
        hnone number (numberOfLetters?_eq_some_iff.mp hnumber)
    rw [hread, hnumber]

theorem ofText_text {point : Point} (h : point.device ≠ "") : ofText point.text = .ok point := by
  have hdigits : (String.ofList (Numeral.decimal point.number.toNat)).toList =
      Numeral.decimal point.number.toNat := String.toList_ofList
  have htail : '/' ∉ (String.ofList (Numeral.decimal point.number.toNat)).toList := by
    rw [hdigits]
    exact Numeral.not_mem_decimal rfl _
  rw [text_eq_append]
  refine (ofText_of_slash h htail).1 point.number ?_
  rw [hdigits]
  exact ⟨_, Or.inl rfl, Numeral.isDecimal_decimal _⟩

/-- What a text is read as. Without a slash, or with nothing before its last one, it is no point. Otherwise
the text before the last slash is the device, and the text after it is the number if it denotes one below
`2 ^ 64`, where a plus sign and leading zeros are allowed; if it does not, it is to blame. The point that was
read has this very text exactly if there is neither a sign nor a superfluous zero. So every point of a named
device is read from its own text, and no two points have the same text. -/
theorem ofText_exactly :
    (∀ text : String,
        '/' ∉ text.toList ∧ ofText text = .error (.point text) ∨
          ∃ device tail : String, text = device ++ "/" ++ tail ∧ '/' ∉ tail.toList ∧
            if device = "" then ofText text = .error (.point text)
            else
              (∀ number : UInt64, Numeral.IsSigned tail.toList number.toNat →
                ofText text = .ok ⟨device, number⟩ ∧
                  ((Point.mk device number).text = text ↔
                    '+' ∉ tail.toList ∧ (tail.toList.head? = some '0' → tail = "0"))) ∧
              ((∀ number : UInt64, ¬ Numeral.IsSigned tail.toList number.toNat) →
                ofText text = .error (.pointNumber tail))) ∧
      (∀ point : Point, point.device ≠ "" → ofText point.text = .ok point) ∧
      ∀ left right : Point, left.text = right.text → left = right := by
  refine ⟨fun text => ?_, fun point => ofText_text, fun left right => text_injective⟩
  cases hsplit : splitLast? '/' text.toList with
  | none =>
      have hslash := splitLast?_eq_none_iff.mp hsplit
      exact Or.inl ⟨hslash, ofText_of_not_mem hslash⟩
  | some pair =>
      obtain ⟨hletters, hafter⟩ := splitLast?_eq_some_iff.mp hsplit
      have htail : '/' ∉ (String.ofList pair.2).toList := by
        rw [String.toList_ofList]
        exact hafter
      have htext : text = String.ofList pair.1 ++ "/" ++ String.ofList pair.2 := by
        apply String.toList_injective
        rw [toList_append_slash, String.toList_ofList, String.toList_ofList, hletters]
      refine Or.inr ⟨_, _, htext, htail, ?_⟩
      rw [htext]
      split
      · next hdevice =>
          rw [hdevice]
          exact ofText_of_no_device htail
      · next hdevice =>
          obtain ⟨hnumber, hnone⟩ := ofText_of_slash hdevice htail
          exact ⟨fun number h => ⟨hnumber number h, text_eq_iff h⟩, hnone⟩

/-- The device may hold slashes, and the greatest number may have a sign and leading zeros. -/
example :
    ofText "rack/7/+0018446744073709551615" = .ok ⟨"rack/7", 18446744073709551615⟩ ∧
      ofText "rack/7/18446744073709551616" = .error (.pointNumber "18446744073709551616") ∧
      ofText "/7" = .error (.point "/7") := by
  decide

end Neighbours.Point
