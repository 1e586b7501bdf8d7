import Neighbours.Numeral
import Neighbours.ValueFault

/-! Attachment points: the places of a switching device where hosts and other devices are attached,
each named by the device and a number on it. A point is written as the device's name, a slash and
the number. Device names are any text, so a point is read by splitting at the last slash. -/

namespace Neighbours

structure Point where
  device : String
  number : UInt64
deriving DecidableEq

/-- Points are ordered by device name, character by character, then by number. -/
instance : Ord Point where
  compare left right := (compare left.device right.device).then (compare left.number right.number)

namespace Point

def letters (point : Point) : List Char :=
  point.device.toList ++ '/' :: Numeral.decimal point.number.toNat

def text (point : Point) : String :=
  String.ofList point.letters

def numberOfLetters? (letters : List Char) : Option UInt64 :=
  (Numeral.signed? 10 letters).bind fun n => if n < UInt64.size then some (UInt64.ofNat n) else none

def numberOfText (text : String) : Except ValueFault UInt64 :=
  match numberOfLetters? text.toList with
  | some number => .ok number
  | none => .error (.pointNumber text)

/-- What stands before and after the last occurrence of a character. -/
def splitLast? (separator : Char) : List Char → Option (List Char × List Char)
  | [] => none
  | c :: cs =>
    match splitLast? separator cs with
    | some (before, after) => some (c :: before, after)
    | none => if c = separator then some ([], cs) else none

theorem splitLast?_eq_none_iff {separator : Char} {letters : List Char} :
    splitLast? separator letters = none ↔ separator ∉ letters := by
  induction letters with
  | nil => simp [splitLast?]
  | cons c cs ih =>
    rw [splitLast?]
    cases h : splitLast? separator cs with
    | some pair =>
      have hmem : separator ∈ cs := by
        by_cases hin : separator ∈ cs
        · exact hin
        · rw [ih.mpr hin] at h
          cases h
      simp [hmem]
    | none =>
      have hnot := ih.mp h
      by_cases hc : c = separator
      · simp [hc]
      · simp [hc, hnot, Ne.symm hc]

theorem splitLast?_append {separator : Char} {before after : List Char} (h : separator ∉ after) :
    splitLast? separator (before ++ separator :: after) = some (before, after) := by
  induction before with
  | nil => simp [splitLast?, splitLast?_eq_none_iff.mpr h]
  | cons c cs ih => simp [splitLast?, ih]

/-- A text without a slash, or with nothing before its last one, is no point at all; otherwise what
stands after the last slash has to be a number below `2 ^ 64`. -/
def ofText (text : String) : Except ValueFault Point :=
  match splitLast? '/' text.toList with
  | none | some ([], _) => .error (.point text)
  | some (c :: cs, after) =>
    (numberOfText (String.ofList after)).map fun number => ⟨String.ofList (c :: cs), number⟩

end Point

end Neighbours
