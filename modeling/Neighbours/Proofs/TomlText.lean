import Mathlib.Data.List.Nodup
import Neighbours.Proofs.Decimals
import Neighbours.Toml.Reader

/-! Reading back lines of a TOML document. A line that gives a bare key a scalar is read by one step of the
reader, which adds one entry to the root table. So a document of such lines is read as the table of their
keys and values in order, as long as no key occurs twice. -/

namespace Neighbours.Toml

/-- A key and a scalar as they stand on a line, and the value that the scalar denotes. -/
structure Line where
  key : List Char
  word : List Char
  node : Node

namespace Line

/-- The key has bare letters only, and the scalar is read as the value. -/
structure Plain (line : Line) : Prop where
  key_ne_nil : line.key ≠ []
  isBare : ∀ c ∈ line.key, isBare c = true
  word_ne_nil : line.word ≠ []
  isScalarLetter : ∀ c ∈ line.word, isScalarLetter c = true
  scalar : scalar? line.word = some line.node

def letters (line : Line) : List Char :=
  line.key ++ [' ', '=', ' '] ++ line.word ++ ['\n']

def entry (line : Line) : String × Node :=
  (String.ofList line.key, line.node)

end Line

/-- What begins with an accepted character does not begin with one that is not accepted. -/
theorem cons_ne_of_accepted {p : Char → Bool} {c other : Char} (h : p c = true) (hother : p other = false)
    {tail otherTail : List Char} : c :: tail ≠ other :: otherTail := by
  intro heq
  rw [(List.cons.inj heq).1, hother] at h
  cases h

theorem skipBlanks_of_accepted {p : Char → Bool} {c : Char} (h : p c = true) (hspace : p ' ' = false)
    (htab : p '\t' = false) (tail : List Char) : skipBlanks (c :: tail) = c :: tail := by
  apply List.dropWhile_cons_of_neg
  rw [isBlank, Bool.or_eq_true, beq_iff_eq, beq_iff_eq]
  rintro (rfl | rfl)
  · exact absurd (h.symm.trans hspace) (by decide)
  · exact absurd (h.symm.trans htab) (by decide)

theorem simpleKey?_bare {key rest : List Char} {c : Char} (hne : key ≠ [])
    (hkey : ∀ c ∈ key, isBare c = true) (hc : isBare c = false) :
    simpleKey? (key ++ c :: rest) = some (String.ofList key, c :: rest) := by
  have hspan : (key ++ c :: rest).span isBare = (key, c :: rest) :=
    Text.span_append hkey (by rintro _ ⟨⟩; exact hc)
  cases key with
  | nil => exact absurd rfl hne
  | cons first key =>
      have hfirst : isBare first = true := hkey first List.mem_cons_self
      rw [List.cons_append] at hspan ⊢
      rw [simpleKey?, hspan]
      all_goals exact fun rest => cons_ne_of_accepted hfirst (by decide)

theorem key?_bare {key rest : List Char} (hne : key ≠ []) (hkey : ∀ c ∈ key, isBare c = true) :
    key? (key ++ ' ' :: '=' :: rest) = some ([], String.ofList key, '=' :: rest) := by
  rw [key?, longestKey, keyWithin?, simpleKey?_bare hne hkey (by decide)]
  rfl

theorem scalarLetters_word {word : List Char} (hword : ∀ c ∈ word, isScalarLetter c = true)
    (rest : List Char) :
    scalarLetters (word ++ '\n' :: rest) = (word, '\n' :: rest) := by
  rw [scalarLetters, Text.span_append hword (by rintro _ ⟨⟩; rfl)]
  rfl

section Plain

variable {line : Line} (h : line.Plain) (rest : List Char)
include h

theorem value?_word (bound depth : Nat) :
    value? (bound + 1) depth (line.word ++ '\n' :: rest) = some (line.node, '\n' :: rest) := by
  have hscalar := h.scalar
  have hletters := scalarLetters_word h.isScalarLetter rest
  cases hword : line.word with
  | nil => exact absurd hword h.word_ne_nil
  | cons first word =>
      have hfirst : isScalarLetter first = true := h.isScalarLetter first (hword ▸ List.mem_cons_self)
      rw [hword] at hscalar hletters
      rw [List.cons_append] at hletters ⊢
      rw [value?, hletters]
      · exact congrArg (Option.map fun node => (node, '\n' :: rest)) hscalar
      all_goals exact fun rest => cons_ne_of_accepted hfirst (by decide)

theorem exists_letters_eq_cons :
    ∃ first tail, line.letters ++ rest = first :: tail ∧ isBare first = true := by
  have hbare := h.isBare
  cases hkey : line.key with
  | nil => exact absurd hkey h.key_ne_nil
  | cons first key =>
      rw [hkey] at hbare
      refine ⟨first, key ++ ([' ', '=', ' '] ++ line.word ++ ['\n'] ++ rest), ?_,
        hbare first List.mem_cons_self⟩
      simp [Line.letters, hkey]

theorem skipBlanks_letters : skipBlanks (line.letters ++ rest) = line.letters ++ rest := by
  obtain ⟨first, tail, hcons, hfirst⟩ := exists_letters_eq_cons h rest
  rw [hcons]
  exact skipBlanks_of_accepted hfirst (by decide) (by decide) tail

/-- A line that begins with a key is no empty line. -/
theorem endLine?_letters : endLine? (line.letters ++ rest) = none := by
  rw [endLine?, skipBlanks_letters h]
  obtain ⟨first, tail, hcons, hfirst⟩ := exists_letters_eq_cons h rest
  rw [hcons]
  split
  · next hcomment => exact absurd hcomment (cons_ne_of_accepted hfirst (by decide))
  · next hbegin =>
      rw [lineBreak?]
      · exact List.cons_ne_nil _ _
      all_goals exact fun rest => cons_ne_of_accepted hfirst (by decide)

theorem skipBlanks_word :
    skipBlanks (' ' :: (line.word ++ '\n' :: rest)) = line.word ++ '\n' :: rest := by
  show skipBlanks (line.word ++ '\n' :: rest) = _
  have hscalar := h.isScalarLetter
  cases hword : line.word with
  | nil => exact absurd hword h.word_ne_nil
  | cons first word =>
      rw [hword] at hscalar
      exact skipBlanks_of_accepted (hscalar first List.mem_cons_self) (by decide) (by decide) _

theorem statement?_letters (document : Document) :
    statement? document (line.letters ++ rest) =
      (document.define? [] (String.ofList line.key) line.node).map (·, rest) := by
  obtain ⟨first, tail, hcons, hfirst⟩ := exists_letters_eq_cons h rest
  have htext : line.letters ++ rest = line.key ++ ' ' :: '=' :: ' ' :: (line.word ++ '\n' :: rest) := by
    simp [Line.letters]
  have hkey : key? (line.letters ++ rest) =
      some ([], String.ofList line.key, '=' :: ' ' :: (line.word ++ '\n' :: rest)) := by
    rw [htext, key?_bare h.key_ne_nil h.isBare]
  rw [hcons] at hkey ⊢
  rw [statement?]
  · simp only [hkey, Option.bind_eq_bind, Option.bind_some, skipBlanks_word h, value?_word h]
    cases document.define? [] (String.ofList line.key) line.node <;> rfl
  all_goals exact fun rest => cons_ne_of_accepted hfirst (by decide)

end Plain

theorem setEntry_of_not_mem {key : String} {node : Node} {entries : List (String × Node)}
    (h : key ∉ entries.map Prod.fst) : setEntry key node entries = entries ++ [(key, node)] := by
  induction entries with
  | nil => rfl
  | cons entry entries ih =>
      rw [List.map_cons, List.mem_cons, not_or] at h
      rw [setEntry, if_neg (Ne.symm h.1), ih h.2, List.cons_append]

/-- The root table and where keys are added to it, before the first header. -/
def Document.ofEntries (entries : List (String × Node)) : Document :=
  ⟨⟨.declared, entries⟩, []⟩

theorem define?_ofEntries {key : String} {node : Node} {entries : List (String × Node)}
    (h : key ∉ entries.map Prod.fst) :
    (Document.ofEntries entries).define? [] key node =
      some (Document.ofEntries (entries ++ [(key, node)])) := by
  have hfresh : entries.lookup key = none := by
    rw [List.lookup_eq_none_iff]
    intro entry hentry
    rw [bne_iff_ne]
    rintro rfl
    exact h (List.mem_map_of_mem hentry)
  simp [Document.define?, Document.ofEntries, Table.changeAt?, Table.define?, hfresh, setEntry_of_not_mem h]

theorem lines?_letters {lines : List Line} (hplain : ∀ line ∈ lines, line.Plain)
    {entries : List (String × Node)} (hnodup : ((entries ++ lines.map Line.entry).map Prod.fst).Nodup)
    {bound : Nat} (hbound : lines.length ≤ bound) :
    lines? bound (.ofEntries entries) (lines.flatMap Line.letters) =
      some (.ofEntries (entries ++ lines.map Line.entry)) := by
  induction lines generalizing entries bound with
  | nil =>
      rw [List.flatMap_nil, lines?, List.map_nil, List.append_nil]
  | cons line lines ih =>
      obtain ⟨hline, hlines⟩ := List.forall_mem_cons.mp hplain
      rw [List.length_cons] at hbound
      obtain ⟨bound, rfl⟩ : ∃ less, bound = less + 1 := ⟨bound - 1, by omega⟩
      have hassoc : entries ++ (line :: lines).map Line.entry =
          (entries ++ [line.entry]) ++ lines.map Line.entry := by
        rw [List.map_cons, List.append_assoc, List.singleton_append]
      rw [hassoc] at hnodup ⊢
      have hfresh : String.ofList line.key ∉ entries.map Prod.fst := by
        intro hmem
        rw [List.map_append, List.map_append] at hnodup
        have hdisjoint := (List.nodup_append.mp (List.nodup_append.mp hnodup).1).2.2
        exact hdisjoint _ hmem _ (List.mem_singleton_self _) rfl
      rw [List.flatMap_cons, lines?, endLine?_letters hline]
      · simp only [skipBlanks_letters hline, statement?_letters hline, define?_ofEntries hfresh,
          Option.map_some, Option.bind_eq_bind, Option.bind_some]
        exact ih hlines hnodup (Nat.le_of_succ_le_succ hbound)
      · obtain ⟨first, tail, hcons, -⟩ := exists_letters_eq_cons hline (lines.flatMap Line.letters)
        rw [hcons]
        exact List.cons_ne_nil _ _

theorem length_le_flatMap_letters (lines : List Line) :
    lines.length ≤ (lines.flatMap Line.letters).length := by
  induction lines with
  | nil => exact Nat.le_refl 0
  | cons line lines ih =>
      have hpos : 0 < line.letters.length := by
        simp only [Line.letters, List.length_append, List.length_singleton]
        omega
      rw [List.flatMap_cons, List.length_append, List.length_cons]
      omega

theorem afterMark_letters {lines : List Line} (hplain : ∀ line ∈ lines, line.Plain) :
    afterMark (lines.flatMap Line.letters) = lines.flatMap Line.letters := by
  cases lines with
  | nil => rfl
  | cons line lines =>
      have hline := hplain line List.mem_cons_self
      obtain ⟨first, tail, hcons, hfirst⟩ := exists_letters_eq_cons hline (lines.flatMap Line.letters)
      rw [List.flatMap_cons, hcons, afterMark]
      exact fun rest => cons_ne_of_accepted hfirst (by decide)

/-- A document of lines with different keys is read as the table of their keys and values. -/
theorem read?_letters {lines : List Line} (hplain : ∀ line ∈ lines, line.Plain)
    (hnodup : (lines.map Line.key).Nodup) :
    read? (lines.flatMap Line.letters) = some ⟨.declared, lines.map Line.entry⟩ := by
  have hkeys : ((([] : List (String × Node)) ++ lines.map Line.entry).map Prod.fst).Nodup := by
    have hmap : (lines.map Line.entry).map Prod.fst = (lines.map Line.key).map String.ofList := by
      rw [List.map_map, List.map_map]
      rfl
    rw [List.nil_append, hmap]
    exact hnodup.map fun _ _ => String.ofList_injective
  have hbound : lines.length ≤ (lines.flatMap Line.letters).length + 1 :=
    Nat.le_succ_of_le (length_le_flatMap_letters lines)
  have hread := lines?_letters hplain hkeys hbound
  rw [read?, afterMark_letters hplain]
  show (lines? _ (.ofEntries []) _).map _ = _
  rw [hread]
  rfl

end Neighbours.Toml
