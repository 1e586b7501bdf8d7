import Mathlib.Data.List.Basic
import Mathlib.Data.List.Forall2
import Neighbours.Mac

/-! The forms in which a hardware address may be written. A text is read as an address exactly if it
consists of six groups joined all by colons or all by hyphens; which of the two it is decides itself, since no
group holds either. An address is written in one of its forms only, that of lower-case pairs joined by
colons, and is read from its capital letters and with hyphens as well. -/

namespace Neighbours

namespace Numeral

/-- A hexadecimal digit in either case, and its value. -/
def IsHexDigit (c : Char) (d : Nat) : Prop :=
  d < 16 ∧ (c = d.digitChar ∨ c = d.digitChar.toUpper)

instance (c : Char) (d : Nat) : Decidable (IsHexDigit c d) :=
  inferInstanceAs (Decidable (_ ∧ _))

theorem digit?_sixteen_eq_some_iff {c : Char} {d : Nat} : digit? 16 c = some d ↔ IsHexDigit c d := by
  have hletters : ∀ d < 16, 10 ≤ d → d.digitChar.toNat = d + 87 ∧ d.digitChar.toUpper.toNat = d + 55 := by
    decide
  have hread : ∀ d < 16, digit? 16 d.digitChar = some d ∧ digit? 16 d.digitChar.toUpper = some d := by
    decide
  have hbounds : '0'.toNat = 48 ∧ '9'.toNat = 57 ∧ 'a'.toNat = 97 ∧ 'f'.toNat = 102 ∧
      'A'.toNat = 65 ∧ 'F'.toNat = 70 := by decide
  constructor
  · intro h
    obtain ⟨hvalue, hlt⟩ := Option.filter_eq_some_iff.mp h
    rw [decide_eq_true_eq] at hlt
    simp only [digitValue?, between_iff, hbounds] at hvalue
    refine ⟨hlt, ?_⟩
    split at hvalue
    · next hdigit =>
        have hd := Option.some.inj hvalue
        have htoNat := Nat.toNat_digitChar_of_lt_ten (n := d) (by omega)
        exact Or.inl (Char.toNat_inj.mp (by omega))
    · split at hvalue
      · next hlower =>
          have hd := Option.some.inj hvalue
          have htoNat := (hletters d hlt (by omega)).1
          exact Or.inl (Char.toNat_inj.mp (by omega))
      · split at hvalue
        · next hupper =>
            have hd := Option.some.inj hvalue
            have htoNat := (hletters d hlt (by omega)).2
            exact Or.inr (Char.toNat_inj.mp (by omega))
        · cases hvalue
  · rintro ⟨hlt, rfl | rfl⟩
    · exact (hread d hlt).1
    · exact (hread d hlt).2

/-- A digit is neither a separator nor a sign. -/
theorem IsHexDigit.ne {c : Char} {d : Nat} (h : IsHexDigit c d) : c ≠ ':' ∧ c ≠ '-' ∧ c ≠ '+' := by
  have hall : ∀ d < 16, (d.digitChar ≠ ':' ∧ d.digitChar ≠ '-' ∧ d.digitChar ≠ '+') ∧
      d.digitChar.toUpper ≠ ':' ∧ d.digitChar.toUpper ≠ '-' ∧ d.digitChar.toUpper ≠ '+' := by decide
  obtain ⟨hlt, rfl | rfl⟩ := h
  · exact (hall d hlt).1
  · exact (hall d hlt).2

theorem unsigned?_single_eq_some_iff {c : Char} {d : Nat} :
    unsigned? 16 [c] = some d ↔ IsHexDigit c d := by
  simp only [unsigned?, continue?, Option.bind_eq_some_iff, digit?_sixteen_eq_some_iff, Option.some.injEq]
  constructor
  · rintro ⟨value, hvalue, rfl⟩
    rwa [Nat.zero_mul, Nat.zero_add]
  · intro h
    exact ⟨d, h, by omega⟩

theorem unsigned?_pair_eq_some_iff {first second : Char} {n : Nat} :
    unsigned? 16 [first, second] = some n ↔
      ∃ high low, IsHexDigit first high ∧ IsHexDigit second low ∧ n = 16 * high + low := by
  simp only [unsigned?, continue?, Option.bind_eq_some_iff, digit?_sixteen_eq_some_iff, Option.some.injEq]
  constructor
  · rintro ⟨high, hhigh, low, hlow, rfl⟩
    exact ⟨high, low, hhigh, hlow, by omega⟩
  · rintro ⟨high, low, hhigh, hlow, rfl⟩
    exact ⟨high, hhigh, low, hlow, by omega⟩

end Numeral

namespace Mac

open Numeral

/-- One or two hexadecimal digits, or one behind a plus sign, and the octet that they denote. -/
inductive IsGroup : List Char → UInt8 → Prop
  | single {c : Char} {d : Nat} (digit : IsHexDigit c d) : IsGroup [c] (UInt8.ofNat d)
  | signed {c : Char} {d : Nat} (digit : IsHexDigit c d) : IsGroup ['+', c] (UInt8.ofNat d)
  | pair {first second : Char} {high low : Nat} (first_digit : IsHexDigit first high)
      (second_digit : IsHexDigit second low) : IsGroup [first, second] (UInt8.ofNat (16 * high + low))

theorem group?_eq_some_iff {letters : List Char} {octet : UInt8} :
    group? letters = some octet ↔ IsGroup letters octet := by
  constructor
  · intro h
    unfold group? at h
    split at h
    · next hlength =>
        obtain ⟨n, hn, rfl⟩ := Option.map_eq_some_iff.mp h
        by_cases hsign : letters.head? = some '+'
        · obtain ⟨digits, rfl⟩ := List.head?_eq_some_iff.mp hsign
          match digits, hn, hlength with
          | [c], hn, _ => exact .signed (unsigned?_single_eq_some_iff.mp hn)
        · rw [signed?_of_head?_ne hsign] at hn
          match letters, hn, hlength with
          | [c], hn, _ => exact .single (unsigned?_single_eq_some_iff.mp hn)
          | [first, second], hn, _ =>
            obtain ⟨high, low, hhigh, hlow, rfl⟩ := unsigned?_pair_eq_some_iff.mp hn
            exact .pair hhigh hlow
    · cases h
  · intro h
    have hunsigned : ∀ {c : Char} {d : Nat} {rest : List Char}, IsHexDigit c d →
        signed? 16 (c :: rest) = unsigned? 16 (c :: rest) := by
      intro c d rest hc
      exact signed?_of_head?_ne fun hsign => hc.ne.2.2 (Option.some.inj hsign)
    cases h with
    | single hdigit =>
        rw [group?, if_pos (by simp), hunsigned hdigit, unsigned?_single_eq_some_iff.mpr hdigit]
        rfl
    | signed hdigit =>
        rw [group?, if_pos (by simp), signed?, unsigned?_single_eq_some_iff.mpr hdigit]
        rfl
    | pair hhigh hlow =>
        have hpair := unsigned?_pair_eq_some_iff.mpr ⟨_, _, hhigh, hlow, rfl⟩
        rw [group?, if_pos (by simp), hunsigned hhigh, hpair]
        rfl

theorem mapM_group?_eq_some_iff {groups : List (List Char)} {bytes : Bytes} :
    groups.mapM group? = some bytes ↔ List.Forall₂ IsGroup groups bytes := by
  induction groups generalizing bytes with
  | nil =>
      rw [List.mapM_nil, List.forall₂_nil_left_iff]
      exact ⟨fun h => (Option.some.inj h).symm, fun h => congrArg some h.symm⟩
  | cons group groups ih =>
      rw [List.mapM_cons, List.forall₂_cons_left_iff]
      constructor
      · intro h
        obtain ⟨octet, hoctet, hrest⟩ := Option.bind_eq_some_iff.mp h
        obtain ⟨octets, hoctets, hbytes⟩ := Option.bind_eq_some_iff.mp hrest
        exact ⟨octet, octets, group?_eq_some_iff.mp hoctet, ih.mp hoctets, (Option.some.inj hbytes).symm⟩
      · rintro ⟨octet, octets, hoctet, hoctets, rfl⟩
        rw [group?_eq_some_iff.mpr hoctet, ih.mpr hoctets]
        rfl

/-- Six groups of one kind, joined by one separator, that spell an address. -/
def Spells (separator : Char) (group : List Char → UInt8 → Prop) (text : String) (mac : Mac) : Prop :=
  ∃ groups : List (List Char), groups.length = 6 ∧ text.toList = [separator].intercalate groups ∧
    List.Forall₂ group groups mac.bytes

theorem not_mem_of_isGroup {letters : List Char} {octet : UInt8} (h : IsGroup letters octet) :
    ':' ∉ letters ∧ '-' ∉ letters := by
  have hne : ∀ {c : Char} {d : Nat}, IsHexDigit c d → ':' ≠ c ∧ '-' ≠ c :=
    fun hc => ⟨hc.ne.1.symm, hc.ne.2.1.symm⟩
  cases h with
  | single hdigit => simp [hne hdigit]
  | signed hdigit => simp [hne hdigit]
  | pair hhigh hlow => simp [hne hhigh, hne hlow]

theorem not_mem_of_areGroups {groups : List (List Char)} {bytes : Bytes}
    (h : List.Forall₂ IsGroup groups bytes) : ∀ group ∈ groups, ':' ∉ group ∧ '-' ∉ group := by
  induction h with
  | nil => exact List.forall_mem_nil _
  | cons hgroup _ ih => exact List.forall_mem_cons.mpr ⟨not_mem_of_isGroup hgroup, ih⟩

theorem not_mem_intercalate {c sep : Char} (hsep : c ≠ sep) {groups : List (List Char)}
    (hgroups : ∀ group ∈ groups, c ∉ group) : c ∉ [sep].intercalate groups := by
  induction groups with
  | nil => exact List.not_mem_nil
  | cons group groups ih =>
      obtain ⟨hgroup, hrest⟩ := List.forall_mem_cons.mp hgroups
      by_cases hempty : groups = []
      · rwa [hempty, List.intercalate_singleton]
      · rw [List.intercalate_cons_of_ne_nil hempty]
        simp [hgroup, hsep, ih hrest]

/-- What separates the groups of a text is found from the text. -/
theorem separator_intercalate {sep : Char} (hsep : sep = ':' ∨ sep = '-') {groups : List (List Char)}
    (hlength : 2 ≤ groups.length) (hgroups : ∀ group ∈ groups, ':' ∉ group) :
    separator ([sep].intercalate groups) = sep := by
  rcases hsep with rfl | rfl
  · apply if_pos
    match groups, hlength with
    | first :: second :: groups, _ =>
      rw [List.intercalate_cons_cons]
      exact List.mem_append_left _ (List.mem_append_right _ (List.mem_singleton_self _))
  · apply if_neg
    exact not_mem_intercalate (by decide) hgroups

theorem ofLetters?_eq_some_iff {letters : List Char} {mac : Mac} :
    ofLetters? letters = some mac ↔
      ∃ sep groups, (sep = ':' ∨ sep = '-') ∧ letters = [sep].intercalate groups ∧
        List.Forall₂ IsGroup groups mac.bytes := by
  rw [ofLetters?, Option.bind_eq_some_iff]
  constructor
  · rintro ⟨bytes, hbytes, hmac⟩
    rw [← Octets.bytes_of_ofBytes? hmac, mapM_group?_eq_some_iff] at hbytes
    have hsep : separator letters = ':' ∨ separator letters = '-' := by
      unfold separator
      split
      · exact Or.inl rfl
      · exact Or.inr rfl
    exact ⟨_, _, hsep, (List.intercalate_splitOn _).symm, hbytes⟩
  · rintro ⟨sep, groups, hsep, rfl, hgroups⟩
    have hlength : groups.length = 6 := hgroups.length_eq.trans mac.length_bytes
    have hplain := not_mem_of_areGroups hgroups
    have hfree : ∀ group ∈ groups, sep ∉ group := by
      intro group hgroup
      rcases hsep with rfl | rfl
      · exact (hplain group hgroup).1
      · exact (hplain group hgroup).2
    have hne : groups ≠ [] := List.ne_nil_of_length_pos (by omega)
    rw [separator_intercalate hsep (by omega) fun group hgroup => (hplain group hgroup).1,
      List.splitOn_intercalate sep hfree hne]
    exact ⟨mac.bytes, mapM_group?_eq_some_iff.mpr hgroups, Octets.ofBytes?_bytes mac⟩

theorem ofText_eq_ok_iff_ofLetters? {text : String} {mac : Mac} :
    ofText text = .ok mac ↔ ofLetters? text.toList = some mac := by
  rw [ofText]
  cases ofLetters? text.toList <;> simp

theorem ofText_eq_ok_iff {text : String} {mac : Mac} :
    ofText text = .ok mac ↔ Spells ':' IsGroup text mac ∨ Spells '-' IsGroup text mac := by
  rw [ofText_eq_ok_iff_ofLetters?, ofLetters?_eq_some_iff]
  constructor
  · rintro ⟨sep, groups, rfl | rfl, htext, hgroups⟩
    · exact Or.inl ⟨groups, hgroups.length_eq.trans mac.length_bytes, htext, hgroups⟩
    · exact Or.inr ⟨groups, hgroups.length_eq.trans mac.length_bytes, htext, hgroups⟩
  · rintro (⟨groups, -, htext, hgroups⟩ | ⟨groups, -, htext, hgroups⟩)
    · exact ⟨_, groups, Or.inl rfl, htext, hgroups⟩
    · exact ⟨_, groups, Or.inr rfl, htext, hgroups⟩

/-- Two lower-case hexadecimal digits and the octet that they denote. -/
inductive IsPair : List Char → UInt8 → Prop
  | intro {high low : Nat} (hhigh : high < 16) (hlow : low < 16) :
      IsPair [high.digitChar, low.digitChar] (UInt8.ofNat (16 * high + low))

theorem isPair_iff {letters : List Char} {octet : UInt8} :
    IsPair letters octet ↔ letters = hexPair octet := by
  constructor
  · intro h
    cases h with
    | @intro high low hhigh hlow =>
        have hvalue : (UInt8.ofNat (16 * high + low)).toNat = 16 * high + low :=
          UInt8.toNat_ofNat_of_lt' (Nat.lt_of_lt_of_le (by omega) (Nat.le_refl 256))
        have hfirst : (16 * high + low) / 16 = high := by omega
        have hsecond : (16 * high + low) % 16 = low := by omega
        rw [hexPair, hvalue, hfirst, hsecond]
  · rintro rfl
    have hlt := octet.toNat_lt
    have hpair : IsPair (hexPair octet) (UInt8.ofNat (16 * (octet.toNat / 16) + octet.toNat % 16)) :=
      .intro (by omega) (by omega)
    rwa [Nat.div_add_mod, UInt8.ofNat_toNat] at hpair

theorem arePairs_iff {groups : List (List Char)} {bytes : Bytes} :
    List.Forall₂ IsPair groups bytes ↔ groups = bytes.map hexPair := by
  have hpairs : IsPair = fun letters octet => letters = hexPair octet :=
    funext fun _ => funext fun _ => propext isPair_iff
  rw [hpairs, ← List.forall₂_map_right_iff, List.forall₂_eq_eq_eq]

/-- The text of an address is the only one that spells it in lower-case pairs joined by colons. -/
theorem spells_isPair_iff {text : String} {mac : Mac} :
    Spells ':' IsPair text mac ↔ text = mac.text := by
  rw [← String.toList_inj, Mac.text, String.toList_ofList, letters]
  constructor
  · rintro ⟨groups, -, htext, hgroups⟩
    rw [htext, arePairs_iff.mp hgroups]
  · intro htext
    exact ⟨_, by rw [List.length_map, mac.length_bytes], htext, arePairs_iff.mpr rfl⟩

theorem map_intercalate (restyle : Char → Char) (sep : Char) (groups : List (List Char)) :
    ([sep].intercalate groups).map restyle =
      [restyle sep].intercalate (groups.map (List.map restyle)) := by
  induction groups with
  | nil => rfl
  | cons group groups ih =>
      by_cases hempty : groups = []
      · rw [hempty, List.intercalate_singleton, List.map_singleton, List.intercalate_singleton]
      · have hmap : groups.map (List.map restyle) ≠ [] := List.map_eq_nil_iff.not.mpr hempty
        rw [List.map_cons, List.intercalate_cons_of_ne_nil hempty, List.intercalate_cons_of_ne_nil hmap,
          List.map_append, List.map_append, ih, List.map_singleton]

/-- An address is read from its text in any style that keeps the digits and makes separators of the
colons. -/
theorem ofText_map {restyle : Char → Char} (hsep : restyle ':' = ':' ∨ restyle ':' = '-')
    (hdigits : ∀ d < 16, IsHexDigit (restyle d.digitChar) d) (mac : Mac) :
    ofText (mac.text.map restyle) = .ok mac := by
  have hgroup : ∀ octet : UInt8, IsGroup ((hexPair octet).map restyle) octet := by
    intro octet
    have hlt := octet.toNat_lt
    have hpair := IsGroup.pair (hdigits (octet.toNat / 16) (by omega)) (hdigits (octet.toNat % 16) (by omega))
    rwa [Nat.div_add_mod, UInt8.ofNat_toNat] at hpair
  have hgroups : List.Forall₂ IsGroup ((mac.bytes.map hexPair).map (List.map restyle)) mac.bytes := by
    rw [List.forall₂_map_left_iff, List.forall₂_map_left_iff, List.forall₂_same]
    exact fun octet _ => hgroup octet
  have htext : (mac.text.map restyle).toList =
      [restyle ':'].intercalate ((mac.bytes.map hexPair).map (List.map restyle)) := by
    rw [String.toList_map, Mac.text, String.toList_ofList, letters, map_intercalate]
  rw [ofText_eq_ok_iff]
  rcases hsep with hcolon | hhyphen
  · rw [hcolon] at htext
    exact Or.inl ⟨_, hgroups.length_eq.trans mac.length_bytes, htext, hgroups⟩
  · rw [hhyphen] at htext
    exact Or.inr ⟨_, hgroups.length_eq.trans mac.length_bytes, htext, hgroups⟩

/-- The text of an address is read as that address. -/
theorem ofText_text (mac : Mac) : ofText mac.text = .ok mac := by
  have hplain : mac.text.map id = mac.text := String.map_id
  rw [← hplain]
  exact ofText_map (Or.inl rfl) (by decide) mac

/-- Hyphens in the place of colons. -/
def hyphenated (c : Char) : Char :=
  if c = ':' then '-' else c

/-- What texts are read as addresses. A text is read as an address exactly if it spells it in six groups joined
all by colons or all by hyphens, each of one or two hexadecimal digits in either case, or of one behind a
plus sign; every other text is refused, and quoted in the fault. So an address is read from its text, also with
capital letters, with hyphens, and with both. What was read from any text is written in lower-case pairs joined
by colons, which is read as the same address, and which is the text itself exactly if it has that form. -/
theorem ofText_six_groups :
    (∀ text mac, ofText text = .ok mac ↔ Spells ':' IsGroup text mac ∨ Spells '-' IsGroup text mac) ∧
      (∀ text, (∀ mac, ¬Spells ':' IsGroup text mac ∧ ¬Spells '-' IsGroup text mac) →
        ofText text = .error (.mac text)) ∧
      (∀ mac, ofText mac.text = .ok mac ∧ ofText (mac.text.map Char.toUpper) = .ok mac ∧
        ofText (mac.text.map hyphenated) = .ok mac ∧
        ofText ((mac.text.map Char.toUpper).map hyphenated) = .ok mac) ∧
      ∀ text mac, ofText text = .ok mac →
        Spells ':' IsPair mac.text mac ∧ ofText mac.text = .ok mac ∧
          (mac.text = text ↔ Spells ':' IsPair text mac) := by
  refine ⟨fun text mac => ofText_eq_ok_iff, ?_, fun mac => ⟨ofText_text mac, ?_, ?_, ?_⟩, ?_⟩
  · intro text hnone
    cases hread : ofLetters? text.toList with
    | none => rw [ofText, hread]
    | some mac =>
        have hok : ofText text = .ok mac := by rw [ofText, hread]
        rcases ofText_eq_ok_iff.mp hok with hcolons | hhyphens
        · exact absurd hcolons (hnone mac).1
        · exact absurd hhyphens (hnone mac).2
  · exact ofText_map (Or.inl rfl) (by decide) mac
  · exact ofText_map (Or.inr rfl) (by decide) mac
  · rw [String.map_map]
    exact ofText_map (Or.inr rfl) (by decide) mac
  · intro text mac _
    exact ⟨spells_isPair_iff.mpr rfl, ofText_text mac, by rw [spells_isPair_iff, eq_comm]⟩

/-- Signs and single digits are read, but a separator of the other kind belongs to its group and spoils it. -/
example :
    ofText "+1-a-0B-+c-Dd-e" = .ok ⟨[0x01, 0x0a, 0x0b, 0x0c, 0xdd, 0x0e], rfl⟩ ∧
      ofText "1:2:3-4:5:6" = .error (.mac "1:2:3-4:5:6") ∧
      ofText "1:2:3:4:5:-6" = .error (.mac "1:2:3:4:5:-6") := by
  decide

end Mac

end Neighbours
