import Neighbours.Proofs.Reconfiguration
import Neighbours.Proofs.TomlText
import Neighbours.Settings.File

/-! Settings kept in a file and read from it. Keeping settings checks nothing, reading them checks all: what
was kept is read back as it was if it is valid, and is refused for its priority otherwise. And whatever a file
holds, settings that are read from it are valid. -/

namespace Neighbours

namespace Toml

theorem ungroup?_of_isDigit {digits : List Char} (hne : digits ≠ [])
    (hdigits : ∀ c ∈ digits, c.isDigit = true) : Number.ungroup? Char.isDigit digits = some digits := by
  induction digits with
  | nil => exact absurd rfl hne
  | cons first digits ih =>
      obtain ⟨hfirst, hrest⟩ := List.forall_mem_cons.mp hdigits
      cases digits with
      | nil => rw [Number.ungroup?, if_pos hfirst]
      | cons second digits =>
          rw [Number.ungroup?, if_pos hfirst, ih (List.cons_ne_nil _ _) hrest, Option.map_some]
          · exact List.cons_ne_nil _ _
          · intro rest h
            exact cons_ne_of_accepted (hrest second List.mem_cons_self) (by decide) h

theorem signed?_decimal (n : Nat) : Number.signed? (Numeral.decimal n) = some (Int.ofNat n) := by
  have habsent : ∀ {c : Char}, c.isDigit = false → ∀ front rest : List Char,
      Numeral.decimal n ≠ front ++ c :: rest := by
    intro c hc front rest h
    exact Numeral.not_mem_decimal hc n (h ▸ List.mem_append_right _ List.mem_cons_self)
  have hzero : ¬((Numeral.decimal n).head? = some '0' ∧ Numeral.decimal n ≠ ['0']) := by
    rintro ⟨hhead, hne⟩
    exact hne (Numeral.decimal_eq_of_head? hhead)
  have hungroup : Number.ungroup? Char.isDigit (Numeral.decimal n) = some (Numeral.decimal n) :=
    ungroup?_of_isDigit (Numeral.isDecimal_decimal n).ne_nil (Numeral.isDecimal_decimal n).isDigit
  have hwhole : Number.whole? (Numeral.decimal n) = some (Numeral.decimal n) := by
    rw [Number.whole?, hungroup]
    exact if_neg hzero
  rw [Number.signed?, Number.decimal?, hwhole, Option.bind_some, Numeral.unsigned?_decimal, Option.map_some]
  · exact habsent rfl ['0']
  · exact habsent rfl ['0']
  · exact habsent rfl ['0']
  · exact habsent rfl []
  · exact habsent rfl []

/-- A number of 32 bits is read as an integer. -/
theorem scalar?_decimal {n : Nat} (h : n < UInt32.size) :
    scalar? (Numeral.decimal n) = some (.integer n) := by
  have hne : ∀ {c : Char} {rest : List Char}, c.isDigit = false → Numeral.decimal n ≠ c :: rest := by
    intro c rest hc heq
    exact Numeral.not_mem_decimal hc n (heq ▸ List.mem_cons_self)
  have hfits : -Int.pow 2 127 ≤ Int.ofNat n ∧ Int.ofNat n < Int.pow 2 128 := by
    have hlow : -Int.pow 2 127 ≤ 0 := by decide
    have hhigh : Int.ofNat UInt32.size < Int.pow 2 128 := by decide
    have hsize : Int.ofNat n < Int.ofNat UInt32.size := Int.ofNat_lt.mpr h
    exact ⟨hlow.trans (Int.natCast_nonneg n), hsize.trans hhigh⟩
  have hinteger : Number.integer? (Numeral.decimal n) = some (Int.ofNat n, true) := by
    rw [Number.integer?, signed?_decimal, Option.map_some, decide_eq_true hfits]
  rw [scalar?, if_neg (hne rfl), if_neg (hne rfl), hinteger]
  rfl

theorem isScalarLetter_of_isDigit {c : Char} (h : c.isDigit = true) : isScalarLetter c = true := by
  simp [isScalarLetter, Char.isAlphanum, h]

end Toml

/-- A file can be written here, over one that is there or anew. -/
def Place.IsWritable : Place → Prop
  | nothing | file _ => True
  | unreachable | directory => False

namespace Settings

/-- The lines of a file, one for each setting. -/
def lines (settings : Settings) : List Toml.Line :=
  [⟨"ndp_enabled".toList, flagLetters settings.discovery, .boolean settings.discovery⟩,
    ⟨"packet_priority".toList, Numeral.decimal settings.priority.toNat,
      .integer settings.priority.toNat⟩,
    ⟨"warn_on_duplicate_replies".toList, flagLetters settings.warnDuplicates,
      .boolean settings.warnDuplicates⟩]

theorem letters_eq_lines (settings : Settings) :
    settings.letters = settings.lines.flatMap Toml.Line.letters := by
  have hdiscovery : "ndp_enabled = ".toList = "ndp_enabled".toList ++ [' ', '=', ' '] := by simp
  have hpriority : "\npacket_priority = ".toList =
      '\n' :: ("packet_priority".toList ++ [' ', '=', ' ']) := by simp
  have hduplicates : "\nwarn_on_duplicate_replies = ".toList =
      '\n' :: ("warn_on_duplicate_replies".toList ++ [' ', '=', ' ']) := by simp
  unfold letters lines
  simp only [hdiscovery, hpriority, hduplicates, List.flatMap_cons, List.flatMap_nil, Toml.Line.letters,
    List.append_assoc, List.cons_append, List.nil_append, List.append_nil]

theorem plain_flag {key : List Char} (hne : key ≠ []) (hbare : ∀ c ∈ key, Toml.isBare c = true)
    (value : Bool) : Toml.Line.Plain ⟨key, flagLetters value, .boolean value⟩ where
  key_ne_nil := hne
  isBare := hbare
  word_ne_nil := by cases value <;> exact List.cons_ne_nil _ _
  isScalarLetter := by
    cases value with
    | true => simp [flagLetters, Toml.isScalarLetter]
    | false => simp [flagLetters, Toml.isScalarLetter]
  scalar := by cases value <;> rfl

theorem plain_number {key : List Char} (hne : key ≠ []) (hbare : ∀ c ∈ key, Toml.isBare c = true)
    (value : UInt32) : Toml.Line.Plain ⟨key, Numeral.decimal value.toNat, .integer value.toNat⟩ where
  key_ne_nil := hne
  isBare := hbare
  word_ne_nil := (Numeral.isDecimal_decimal _).ne_nil
  isScalarLetter c hc := Toml.isScalarLetter_of_isDigit ((Numeral.isDecimal_decimal _).isDigit c hc)
  scalar := Toml.scalar?_decimal value.toNat_lt_size

theorem plain_lines (settings : Settings) : ∀ line ∈ settings.lines, line.Plain := by
  rw [lines, List.forall_mem_cons, List.forall_mem_cons, List.forall_mem_singleton]
  exact ⟨plain_flag (by simp) (by simp [Toml.isBare]) _, plain_number (by simp) (by simp [Toml.isBare]) _,
    plain_flag (by simp) (by simp [Toml.isBare]) _⟩

theorem read?_letters (settings : Settings) :
    Toml.read? settings.letters = some ⟨.declared, settings.lines.map Toml.Line.entry⟩ := by
  have hnodup : (settings.lines.map Toml.Line.key).Nodup := by
    show ["ndp_enabled".toList, "packet_priority".toList, "warn_on_duplicate_replies".toList].Nodup
    decide
  rw [letters_eq_lines, Toml.read?_letters (plain_lines settings) hnodup]

theorem number?_integer {table : Toml.Table} {key : String} {default value : UInt32}
    (h : table.entries.lookup key = some (.integer value.toNat)) :
    number? table key default = some value := by
  have hrange : 0 ≤ (value.toNat : Int) ∧ (value.toNat : Int).toNat < UInt32.size :=
    ⟨Int.natCast_nonneg _, value.toNat_lt_size⟩
  rw [number?, h]
  show (if _ then _ else _) = _
  rw [if_pos hrange, Int.toNat_natCast, UInt32.ofNat_toNat]

theorem ofTable?_lines (settings : Settings) :
    ofTable? ⟨.declared, settings.lines.map Toml.Line.entry⟩ = some settings := by
  have hnumber : number? ⟨.declared, settings.lines.map Toml.Line.entry⟩ "packet_priority"
      default.priority = some settings.priority := number?_integer rfl
  rw [ofTable?, hnumber]
  rfl

/-- What is read from the text of settings is those settings. -/
theorem ofLetters?_letters (settings : Settings) : ofLetters? settings.letters = some settings := by
  rw [ofLetters?, read?_letters, Option.bind_some, ofTable?_lines]

theorem ofText_text (settings : Settings) :
    ofText settings.text = settings.validate.map fun () => settings := by
  rw [ofText, text, String.toList_ofList, ofLetters?_letters]

theorem ofContent_toUTF8 (text : String) : ofContent text.toUTF8 = ofText text := by
  have hdecoded : String.fromUTF8? text.toUTF8 = some text := dif_pos text.isValidUTF8
  rw [ofContent, hdecoded]

theorem save_of_isWritable {place : Place} (h : place.IsWritable) (settings : Settings) :
    settings.save place = .ok (.file settings.text.toUTF8) := by
  cases place with
  | nothing => rfl
  | file content => rfl
  | unreachable => cases h
  | directory => cases h

theorem load_text (settings : Settings) :
    load (.file settings.text.toUTF8) = settings.validate.map fun () => settings := by
  rw [load, ofContent_toUTF8, ofText_text]

theorem validate_of_ofText {text : String} {found : Settings} (h : ofText text = .ok found) :
    found.validate = .ok () := by
  rw [ofText] at h
  cases hread : ofLetters? text.toList with
  | none =>
      rw [hread] at h
      cases h
  | some settings =>
      rw [hread] at h
      cases hvalid : settings.validate with
      | error fault =>
          simp only [hvalid] at h
          cases h
      | ok _ =>
          simp only [hvalid] at h
          cases h
          exact hvalid

theorem validate_of_load {place : Place} {found : Settings} (h : load place = .ok found) :
    found.validate = .ok () := by
  cases place with
  | nothing | unreachable =>
      cases h
      rfl
  | directory => cases h
  | file content =>
      rw [load, ofContent] at h
      cases hdecoded : String.fromUTF8? content with
      | none =>
          rw [hdecoded] at h
          cases h
      | some text =>
          rw [hdecoded] at h
          exact validate_of_ofText h

theorem inRange_of_validate {settings : Settings} (h : settings.validate = .ok ()) :
    Priority.InRange settings.priority := by
  by_contra hrange
  rw [validate_eq, if_neg hrange] at h
  cases h

/-- Settings that are kept are read back if they are valid and refused with what is wrong with them
otherwise; and whatever stands at a path, settings that are read from it are valid. -/
theorem load_save_exactly :
    (∀ (settings : Settings) (place : Place), place.IsWritable →
      ∃ kept, settings.save place = .ok kept ∧
        (settings.validate = .ok () → load kept = .ok settings) ∧
        ∀ fault, settings.validate = .error fault → load kept = .error fault) ∧
    ∀ (place : Place) (found : Settings), load place = .ok found →
      found.validate = .ok () ∧ Priority.InRange found.priority := by
  constructor
  · intro settings place hwritable
    refine ⟨_, save_of_isWritable hwritable settings, ?_, ?_⟩
    · intro hvalid
      rw [load_text, hvalid]
      rfl
    · intro fault hfault
      rw [load_text, hfault]
      rfl
  · intro place found hload
    have hvalid := validate_of_load hload
    exact ⟨hvalid, inRange_of_validate hvalid⟩

/-- The highest priority is read back, the next one is refused, and both are kept. -/
theorem load_save_highest :
    (∃ kept, save ⟨true, 65535, false⟩ .nothing = .ok kept ∧ load kept = .ok ⟨true, 65535, false⟩) ∧
    ∃ kept, save ⟨true, 65536, false⟩ .nothing = .ok kept ∧ load kept = .error .priority := by
  obtain ⟨highest, hhighest, hload, -⟩ := load_save_exactly.1 ⟨true, 65535, false⟩ .nothing trivial
  obtain ⟨next, hnext, -, hrefused⟩ := load_save_exactly.1 ⟨true, 65536, false⟩ .nothing trivial
  exact ⟨⟨highest, hhighest, hload rfl⟩, ⟨next, hnext, hrefused .priority rfl⟩⟩

end Settings

end Neighbours
