import Mathlib.Data.List.TakeDrop
import Mathlib.Tactic.IntervalCases
import Neighbours.Json.Reader
import Neighbours.Json.Writer

/-! Reading back what was written. Each piece of a written text is read by one step of a reader: the
escape of a character, the digits of a number, the member of an object. A reader takes no more than what
was written, provided that what follows could not go on with it. -/

namespace Neighbours

namespace Text

/-- A word ends where nothing follows that could be part of it. -/
theorem span_append {p : Char → Bool} {word rest : List Char} (hword : ∀ c ∈ word, p c = true)
    (hrest : ∀ c ∈ rest.head?, p c = false) : (word ++ rest).span p = (word, rest) := by
  rw [List.span_eq_takeWhile_dropWhile, List.takeWhile_append_of_pos hword,
    List.dropWhile_append_of_pos hword]
  cases rest with
  | nil => rw [List.takeWhile_nil, List.append_nil, List.dropWhile_nil]
  | cons c rest => simp [hrest c rfl]

end Text

namespace Numeral

theorem isDigit_iff {c : Char} : c.isDigit = true ↔ 48 ≤ c.toNat ∧ c.toNat ≤ 57 := by
  simp only [Char.isDigit, Bool.and_eq_true, decide_eq_true_eq, ge_iff_le, UInt32.le_iff_toNat_le]
  exact Iff.rfl

theorem isDigit_of_mem_decimal {n : Nat} {c : Char} (h : c ∈ decimal n) : c.isDigit = true :=
  Nat.isDigit_of_mem_toDigits (by decide) (by decide) h

/-- The digits of a number begin with zero only if there is no other digit. -/
theorem eq_zero_of_head?_decimal {n : Nat} (h : (decimal n).head? = some '0') : n = 0 := by
  induction n using Nat.strongRecOn with
  | ind n ih =>
      by_cases hn : n < 10
      · rw [decimal, Nat.toDigits_of_lt_base hn] at h
        have hdigit : ∀ d < 10, d.digitChar = '0' → d = 0 := by decide
        exact hdigit n hn (Option.some.inj h)
      · have hdiv : n / 10 < n := Nat.div_lt_self (by omega) (by decide)
        rw [decimal, Nat.toDigits_of_base_le (by decide) (by omega)] at h
        have hzero : n / 10 = 0 := by
          apply ih (n / 10) hdiv
          rw [decimal]
          cases hdigits : Nat.toDigits 10 (n / 10) with
          | nil => exact absurd hdigits Nat.toDigits_ne_nil
          | cons first digits => rwa [hdigits] at h
        omega

theorem decimal_eq_of_head? {n : Nat} (h : (decimal n).head? = some '0') : decimal n = ['0'] := by
  rw [eq_zero_of_head?_decimal h]
  rfl

end Numeral

namespace Json

/-! Strings. -/

section Strings

/-- The characters that are escaped by one other character. -/
def shortlyEscaped : List Char :=
  ['"', '\\', '\x08', '\x0c', '\n', '\r', '\t']

/-- What a character is read as after it has been written. -/
def Piece.ofWritten (c : Char) : Piece :=
  if c.toNat < 32 ∧ c ∉ shortlyEscaped then .unit c.toNat else .char c

/-- A piece stands before those that are read after it. -/
def Piece.before (piece : Piece) (read : Option (List Piece × List Char)) :
    Option (List Piece × List Char) := do
  let (pieces, rest) ← read
  return (piece :: pieces, rest)

theorem pieces?_plain {c : Char} (hquote : c ≠ '"') (hbackslash : c ≠ '\\') (hle : ¬ c.toNat < 32)
    (letters : List Char) : pieces? (c :: letters) = (Piece.char c).before (pieces? letters) := by
  rw [pieces?]
  · rw [if_neg hle]
    rfl
  · exact hquote
  · exact fun _ _ _ _ _ h => absurd h hbackslash
  · exact fun _ _ h => absurd h hbackslash

theorem pieces?_unit (octet : UInt8) (letters : List Char) :
    pieces? (['\\', 'u', '0', '0'] ++ Numeral.hexPair octet ++ letters) =
      (Piece.unit octet.toNat).before (pieces? letters) := by
  have hcode : Numeral.unsigned? 16 ('0' :: '0' :: Numeral.hexPair octet) = some octet.toNat :=
    Numeral.unsigned?_hexPair octet
  calc pieces? (['\\', 'u', '0', '0'] ++ Numeral.hexPair octet ++ letters)
      = (Numeral.unsigned? 16 ('0' :: '0' :: Numeral.hexPair octet)).bind fun code =>
          (Piece.unit code).before (pieces? letters) := rfl
    _ = (Piece.unit octet.toNat).before (pieces? letters) := by rw [hcode, Option.bind_some]

theorem pieces?_escape_of_mem {c : Char} (h : c ∈ shortlyEscaped) (letters : List Char) :
    pieces? (escape c ++ letters) = (Piece.ofWritten c).before (pieces? letters) := by
  simp only [shortlyEscaped, List.mem_cons, List.not_mem_nil, or_false] at h
  rcases h with rfl | rfl | rfl | rfl | rfl | rfl | rfl <;> rfl

theorem escape_of_not_mem {c : Char} (h : c ∉ shortlyEscaped) :
    escape c = if c.toNat < 32 then ['\\', 'u', '0', '0'] ++ Numeral.hexPair (UInt8.ofNat c.toNat)
      else [c] := by
  simp only [shortlyEscaped, List.mem_cons, List.not_mem_nil, or_false, not_or] at h
  simp only [escape, h, if_false]

/-- The escape of a character is one piece. -/
theorem pieces?_escape (c : Char) (letters : List Char) :
    pieces? (escape c ++ letters) = (Piece.ofWritten c).before (pieces? letters) := by
  by_cases hshort : c ∈ shortlyEscaped
  · exact pieces?_escape_of_mem hshort letters
  · rw [escape_of_not_mem hshort]
    by_cases hcontrol : c.toNat < 32
    · have hoctet : (UInt8.ofNat c.toNat).toNat = c.toNat := by
        rw [UInt8.toNat_ofNat']
        omega
      have hpiece : Piece.ofWritten c = .unit c.toNat := if_pos ⟨hcontrol, hshort⟩
      rw [if_pos hcontrol, pieces?_unit, hoctet, hpiece]
    · have hpiece : Piece.ofWritten c = .char c := if_neg fun h => hcontrol h.1
      have hne : ∀ other ∈ shortlyEscaped, c ≠ other := fun _ hmem heq => hshort (heq ▸ hmem)
      rw [if_neg hcontrol, hpiece]
      exact pieces?_plain (hne _ (by decide)) (hne _ (by decide)) hcontrol letters

theorem pieces?_quoted (text : List Char) (rest : List Char) :
    pieces? (text.flatMap escape ++ '"' :: rest) = some (text.map Piece.ofWritten, rest) := by
  induction text with
  | nil => rfl
  | cons c text ih =>
      rw [List.flatMap_cons, List.append_assoc, pieces?_escape, ih]
      rfl

/-- The unit of a control character is that character, whatever follows. -/
theorem characters?_unit {code : Nat} (h : code < 32) (pieces : List Piece) :
    characters? (.unit code :: pieces) = (characters? pieces).map (Char.ofNat code :: ·) := by
  have hhigh : isHighSurrogate code = false := by
    simp [isHighSurrogate]
    omega
  have hlow : isLowSurrogate code = false := by
    simp [isLowSurrogate]
    omega
  cases pieces with
  | nil => simp [characters?, hhigh, hlow]
  | cons piece pieces =>
      cases piece with
      | char c => simp [characters?, hhigh, hlow]
      | unit low => simp [characters?, hhigh, hlow]

theorem characters?_ofWritten (text : List Char) :
    characters? (text.map Piece.ofWritten) = some text := by
  induction text with
  | nil => rfl
  | cons c text ih =>
      rw [List.map_cons, Piece.ofWritten]
      split
      · next h => rw [characters?_unit h.1, ih, Option.map_some, Char.ofNat_toNat]
      · rw [characters?, ih, Option.map_some]

theorem string?_quoted (text : String) (rest : List Char) :
    string? (text.toList.flatMap escape ++ '"' :: rest) = some (some text, rest) := by
  rw [string?, pieces?_quoted, Option.map_some]
  show some ((characters? (text.toList.map Piece.ofWritten)).map String.ofList, rest) = _
  rw [characters?_ofWritten, Option.map_some, String.ofList_toList]

end Strings

/-! Numbers. -/

section Numbers

/-- What may follow the value of a member: no number goes on with it. -/
def Closes : List Char → Prop
  | [] => True
  | c :: _ => c = ',' ∨ c = '}'

variable {rest : List Char}

theorem digits?_decimal (n : Nat) (hrest : Closes rest) :
    digits? (Numeral.decimal n ++ rest) = some (Numeral.decimal n, rest) := by
  have hdigits : ∀ c ∈ Numeral.decimal n, c.isDigit = true := fun c => Numeral.isDigit_of_mem_decimal
  have hend : ∀ c ∈ rest.head?, c.isDigit = false := by
    intro c hc
    cases rest with
    | nil => cases hc
    | cons first rest =>
        cases hc
        rcases hrest with rfl | rfl <;> rfl
  rw [digits?, Text.span_append hdigits hend]
  cases hdecimal : Numeral.decimal n with
  | nil => exact absurd hdecimal Nat.toDigits_ne_nil
  | cons first digits => rfl

theorem fraction?_of_closes (hrest : Closes rest) : fraction? rest = some (false, rest) := by
  cases rest with
  | nil => rfl
  | cons c rest => rcases hrest with rfl | rfl <;> rfl

theorem exponent?_of_closes (hrest : Closes rest) : exponent? rest = some (false, rest) := by
  cases rest with
  | nil => rfl
  | cons c rest => rcases hrest with rfl | rfl <;> rfl

theorem magnitude?_decimal (n : Nat) (hrest : Closes rest) :
    magnitude? (Numeral.decimal n ++ rest) = some (.natural n, rest) := by
  have hzero : ¬((Numeral.decimal n).head? = some '0' ∧ Numeral.decimal n ≠ ['0']) := by
    rintro ⟨hhead, hne⟩
    exact hne (Numeral.decimal_eq_of_head? hhead)
  simp only [magnitude?, digits?_decimal n hrest, fraction?_of_closes hrest,
    exponent?_of_closes hrest, Numeral.unsigned?_decimal, Option.bind_eq_bind, Option.bind_some,
    if_neg hzero]
  rfl

/-- A text that begins with a digit is read as a number. -/
theorem value?_of_isDigit {bound : Nat} {c : Char} (h : c.isDigit = true) (letters : List Char) :
    value? (bound + 1) (c :: letters) = magnitude? (c :: letters) := by
  obtain ⟨hlow, hhigh⟩ := Numeral.isDigit_iff.mp h
  rw [← Char.ofNat_toNat c]
  interval_cases c.toNat <;> rfl

theorem value?_natural (bound n : Nat) (hrest : Closes rest) :
    value? (bound + 1) (natural n ++ rest) = some (.natural n, rest) := by
  have hmagnitude := magnitude?_decimal n hrest
  rw [natural]
  cases hdecimal : Numeral.decimal n with
  | nil => exact absurd hdecimal Nat.toDigits_ne_nil
  | cons first digits =>
      have hfirst : first.isDigit = true := by
        apply Numeral.isDigit_of_mem_decimal (n := n)
        rw [hdecimal]
        exact List.mem_cons_self
      rw [hdecimal] at hmagnitude
      rw [List.cons_append, value?_of_isDigit hfirst]
      exact hmagnitude

end Numbers

/-! Values. -/

/-- A text is read as a value, by any reader whose bound the text does not exceed. -/
def Reads (letters : List Char) (value : Value) : Prop :=
  ∀ bound rest, letters.length ≤ bound → Closes rest →
    value? (bound + 1) (letters ++ rest) = some (value, rest)

theorem read?_of_reads {letters : List Char} {value : Value} (h : Reads letters value) :
    read? letters = some value := by
  have hvalue := h letters.length [] (Nat.le_refl _) trivial
  rw [List.append_nil] at hvalue
  rw [read?, hvalue]
  rfl

theorem reads_natural (n : Nat) : Reads (natural n) (.natural n) :=
  fun bound _ _ hrest => value?_natural bound n hrest

theorem reads_boolean (b : Bool) : Reads (boolean b) (.boolean b) := by
  intro bound rest _ _
  cases b <;> rfl

theorem reads_quoted (text : String) : Reads (quoted text) (.text (some text)) := by
  intro bound rest _ _
  have htext : quoted text ++ rest = '"' :: (text.toList.flatMap escape ++ '"' :: rest) := by
    simp only [quoted, List.cons_append, List.append_assoc, List.nil_append]
  rw [htext]
  show (string? (text.toList.flatMap escape ++ '"' :: rest)).map _ = _
  rw [string?_quoted]
  rfl

section Members

/-- A member as it is written and as it is read. -/
structure Member where
  key : String
  letters : List Char
  value : Value

namespace Member

def text (member : Member) : List Char :=
  quoted member.key ++ ':' :: member.letters

def read (member : Member) : Option String × Value :=
  (some member.key, member.value)

end Member

variable {bound : Nat} {tail rest : List Char}

/-- A member is read, and then what comes after it. -/
theorem members?_text {member : Member}
    (h : value? bound (member.letters ++ tail) = some (member.value, tail)) :
    members? (bound + 1) (member.text ++ tail) =
      match skipBlanks tail with
      | ',' :: rest =>
        (members? bound rest).map fun (members, rest) => (member.read :: members, rest)
      | '}' :: rest => some ([member.read], rest)
      | _ => none := by
  have htext : member.text ++ tail = '"' :: (member.key.toList.flatMap escape ++
      '"' :: ':' :: (member.letters ++ tail)) := by
    simp only [Member.text, quoted, List.cons_append, List.append_assoc, List.nil_append]
  have hkey := string?_quoted member.key (':' :: (member.letters ++ tail))
  rw [htext, members?]
  show (string? (member.key.toList.flatMap escape ++
    '"' :: ':' :: (member.letters ++ tail))).bind _ = _
  rw [hkey]
  show (value? bound (member.letters ++ tail)).bind _ = _
  rw [h]
  rfl

/-- The members of an object, up to its end. -/
theorem members?_texts {members : List Member} (hne : members ≠ [])
    (hreads : ∀ member ∈ members, Reads member.letters member.value) {bound : Nat}
    (hbound : ([','].intercalate (members.map Member.text)).length ≤ bound) :
    members? (bound + 1) ([','].intercalate (members.map Member.text) ++ '}' :: rest) =
      some (members.map Member.read, rest) := by
  -- A member takes one from the bound, and more than that from the text.
  induction members generalizing bound with
  | nil => exact absurd rfl hne
  | cons member members ih =>
      have hfirst := hreads member List.mem_cons_self
      have hlength : member.letters.length + 3 ≤ member.text.length := by
        simp only [Member.text, quoted, List.length_append, List.length_cons, List.length_nil]
        omega
      cases members with
      | nil =>
          rw [List.map_singleton, List.intercalate_singleton] at hbound ⊢
          obtain ⟨bound, rfl⟩ : ∃ less, bound = less + 1 := ⟨bound - 1, by omega⟩
          have hvalue := hfirst bound ('}' :: rest) (by omega) (Or.inr rfl)
          rw [members?_text hvalue]
          rfl
      | cons second members =>
          rw [List.map_cons, List.map_cons, List.intercalate_cons_cons] at hbound ⊢
          rw [List.length_append, List.length_append, List.length_singleton] at hbound
          obtain ⟨bound, rfl⟩ : ∃ less, bound = less + 1 := ⟨bound - 1, by omega⟩
          have hlate : ([','].intercalate ((second :: members).map Member.text)).length ≤ bound := by
            rw [List.map_cons]
            omega
          have hrest := ih (List.cons_ne_nil _ _)
            (fun other hmem => hreads other (List.mem_cons_of_mem _ hmem)) hlate
          rw [List.map_cons] at hrest
          have hvalue := hfirst bound (',' :: ([','].intercalate
            (second.text :: members.map Member.text) ++ '}' :: rest)) (by omega) (Or.inl rfl)
          rw [List.append_assoc, List.append_assoc, List.singleton_append, members?_text hvalue]
          show (members? (bound + 1) _).map _ = _
          rw [hrest]
          rfl

/-- The first member begins with the quote of its key. -/
theorem exists_texts_eq {members : List Member} (hne : members ≠ []) :
    ∃ tail, [','].intercalate (members.map Member.text) = '"' :: tail := by
  cases members with
  | nil => exact absurd rfl hne
  | cons member members =>
      cases members with
      | nil => exact ⟨_, List.intercalate_singleton⟩
      | cons second members => exact ⟨_, List.intercalate_cons_cons⟩

/-- An object is read as its members, in their order. -/
theorem reads_object {members : List Member} (hne : members ≠ [])
    (hreads : ∀ member ∈ members, Reads member.letters member.value) :
    Reads (object (members.map fun member => (member.key, member.letters)))
      (.object (members.map Member.read)) := by
  intro bound rest hbound _
  have hobject : object (members.map fun member => (member.key, member.letters)) =
      '{' :: [','].intercalate (members.map Member.text) ++ ['}'] := by
    rw [object, List.map_map]
    rfl
  rw [hobject] at hbound ⊢
  rw [List.length_append, List.length_cons, List.length_singleton] at hbound
  obtain ⟨bound, rfl⟩ : ∃ less, bound = less + 1 := ⟨bound - 1, by omega⟩
  have hmembers := @members?_texts rest members hne hreads bound (by omega)
  obtain ⟨tail, htail⟩ := exists_texts_eq hne
  rw [htail] at hmembers ⊢
  rw [List.append_assoc, List.singleton_append, List.cons_append]
  show (members? (bound + 1) ('"' :: tail ++ '}' :: rest)).map _ = _
  rw [hmembers]
  rfl

end Members

end Json

end Neighbours
