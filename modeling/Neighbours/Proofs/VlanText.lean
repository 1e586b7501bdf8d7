import Neighbours.Proofs.Decimals
import Neighbours.Vlan

/-! The text of VLAN identifiers. The label in front of the number is told by its octets, and wherever it is
found the text can be cut behind it: octets that are ASCII letters are characters of their own. What remains
has to be a number; the ones in range are identifiers, and one that is not is named in the fault as long as
sixteen bits can hold it. -/

namespace Neighbours

namespace Text

/-- The octets of a text. -/
def octets (text : String) : Bytes :=
  text.toUTF8.data.toList

/-- A capital letter is replaced by the small one, every other octet stays. -/
def lowerOctet (octet : UInt8) : UInt8 :=
  if 65 ≤ octet.toNat ∧ octet.toNat ≤ 90 then octet + 32 else octet

theorem octets_append (front back : String) : octets (front ++ back) = octets front ++ octets back := by
  simp [octets]

theorem octets_eq_flatMap (text : String) :
    octets text = text.toList.flatMap String.utf8EncodeChar := by
  conv_lhs => rw [← String.ofList_toList (s := text)]
  rw [octets, String.toUTF8_eq_toByteArray, String.toByteArray_ofList, List.utf8Encode,
    List.data_toByteArray]

theorem octets_inj {left right : String} : octets left = octets right ↔ left = right := by
  constructor
  · intro h
    exact String.toByteArray_inj.mp (ByteArray.ext (Array.toList_inj.mp h))
  · exact congrArg octets

theorem length_octets (text : String) : (octets text).length = text.utf8ByteSize := by
  simp [octets]

/-- Only ASCII characters have octets in the ASCII range. -/
theorem le_of_mem_utf8EncodeChar {c : Char} (h : 128 ≤ c.toNat) {octet : UInt8}
    (hoctet : octet ∈ String.utf8EncodeChar c) : 128 ≤ octet.toNat := by
  have hcode : c.val.toNat = c.toNat := rfl
  simp only [String.utf8EncodeChar, hcode] at hoctet
  rw [if_neg (by omega)] at hoctet
  split at hoctet
  · simp only [List.mem_cons, List.not_mem_nil, or_false] at hoctet
    rcases hoctet with rfl | rfl <;> rw [UInt8.toNat_ofNat'] <;> omega
  · split at hoctet <;> simp only [List.mem_cons, List.not_mem_nil, or_false] at hoctet
    · rcases hoctet with rfl | rfl | rfl <;> rw [UInt8.toNat_ofNat'] <;> omega
    · rcases hoctet with rfl | rfl | rfl | rfl <;> rw [UInt8.toNat_ofNat'] <;> omega

/-- Small letters for capital ones make no difference whether characters or octets are replaced. -/
theorem utf8EncodeChar_toLower (c : Char) :
    String.utf8EncodeChar c.toLower = (String.utf8EncodeChar c).map lowerOctet := by
  by_cases hascii : c.toNat < 128
  · have hall : ∀ n < 128, String.utf8EncodeChar (Char.ofNat n).toLower =
        (String.utf8EncodeChar (Char.ofNat n)).map lowerOctet := by decide
    have hc := hall c.toNat hascii
    rwa [Char.ofNat_toNat] at hc
  · have hkept : c.toLower = c := by
      refine dif_neg fun hcapital => ?_
      have hle : c.toNat ≤ 90 := UInt32.le_iff_toNat_le.mp hcapital.2
      omega
    have hsame : ∀ octet ∈ String.utf8EncodeChar c, lowerOctet octet = octet := by
      intro octet hoctet
      have hhigh := le_of_mem_utf8EncodeChar (Nat.le_of_not_lt hascii) hoctet
      exact if_neg (by omega)
    rw [hkept, List.map_congr_left hsame, List.map_id']

theorem lt_of_lowerOctet_lt {octet : UInt8} (h : (lowerOctet octet).toNat < 128) : octet.toNat < 128 := by
  unfold lowerOctet at h
  split at h
  · omega
  · exact h

theorem octets_map_toLower (text : String) :
    octets (text.map Char.toLower) = (octets text).map lowerOctet := by
  rw [octets_eq_flatMap, octets_eq_flatMap, String.toList_map, List.flatMap_map, List.map_flatMap]
  exact congrArg (text.toList.flatMap ·) (funext utf8EncodeChar_toLower)

/-- ASCII octets are characters of their own. -/
theorem flatMap_utf8EncodeChar_ofNat {front : Bytes} (h : ∀ octet ∈ front, octet.toNat < 128) :
    (front.map fun octet => Char.ofNat octet.toNat).flatMap String.utf8EncodeChar = front := by
  have hall : ∀ n < 128, String.utf8EncodeChar (Char.ofNat n) = [UInt8.ofNat n] := by decide
  induction front with
  | nil => rfl
  | cons octet front ih =>
      obtain ⟨hoctet, hfront⟩ := List.forall_mem_cons.mp h
      rw [List.map_cons, List.flatMap_cons, hall _ hoctet, ih hfront, UInt8.ofNat_toNat,
        List.singleton_append]

/-- A text can be cut behind octets that are all ASCII. -/
theorem isValid_of_ascii {text : String} {position : Nat} (hle : position ≤ text.utf8ByteSize)
    (h : ∀ octet ∈ (octets text).take position, octet.toNat < 128) :
    String.Pos.Raw.IsValid text ⟨position⟩ := by
  rw [String.Pos.Raw.isValid_iff_isValidUTF8_extract_zero]
  refine ⟨hle, .intro (((octets text).take position).map fun octet => Char.ofNat octet.toNat) ?_⟩
  apply ByteArray.ext
  apply Array.toList_inj.mp
  rw [List.utf8Encode, flatMap_utf8EncodeChar_ofNat h, List.data_toByteArray]
  simp [octets]

end Text

namespace Vlan

open Numeral Text

/-- The first four octets are those of the label, in either case. -/
def Labelled (text : String) : Prop :=
  ((octets text).take 4).map lowerOctet = octets "vlan"

instance (text : String) : Decidable (Labelled text) :=
  inferInstanceAs (Decidable (_ = _))

theorem labelled_append_iff {label number : String} (h : label.utf8ByteSize = 4) :
    Labelled (label ++ number) ↔ label.map Char.toLower = "vlan" := by
  have hfront : (octets (label ++ number)).take 4 = octets label := by
    rw [octets_append, List.take_left' ((length_octets label).trans h)]
  rw [Labelled, hfront, ← octets_map_toLower, octets_inj]

theorem afterLabel?_append {label number : String} (h : label.utf8ByteSize = 4) :
    afterLabel? (label ++ number) = some (if Labelled (label ++ number) then number else label ++ number) := by
  have hcut : cutAt? (label ++ number) 4 = some (label, number) := cutAt?_eq_some_iff.mpr ⟨rfl, h⟩
  have hlabel : label.toList.map Char.toLower = ['v', 'l', 'a', 'n'] ↔ Labelled (label ++ number) := by
    rw [labelled_append_iff h, ← String.toList_inj, String.toList_map]
    rfl
  simp only [afterLabel?, before?, behind?, hcut, Option.map_some, hlabel]
  split <;> rfl

theorem Labelled.exists_cut {text : String} (h : Labelled text) :
    ∃ label number, text = label ++ number ∧ label.utf8ByteSize = 4 := by
  have hlength : ((octets text).take 4).length = 4 := by
    have hmapped := congrArg List.length h
    rwa [List.length_map] at hmapped
  have hvalid : String.Pos.Raw.IsValid text ⟨4⟩ := by
    refine isValid_of_ascii ?_ ?_
    · rw [List.length_take, length_octets] at hlength
      omega
    · intro octet hoctet
      have hsmall : lowerOctet octet ∈ octets "vlan" := h ▸ List.mem_map_of_mem hoctet
      have hletters : ∀ letter ∈ octets "vlan", letter.toNat < 128 := by decide +kernel
      exact lt_of_lowerOctet_lt (hletters _ hsmall)
  obtain ⟨label, number, htext, hposition⟩ := String.Pos.Raw.isValid_iff_exists_append.mp hvalid
  exact ⟨label, number, htext, (congrArg String.Pos.Raw.byteIdx hposition).symm⟩

/-- There is always a number to look at. -/
theorem exists_afterLabel? (text : String) :
    ∃ number, afterLabel? text = some number ∧
      octets number = if Labelled text then (octets text).drop 4 else octets text := by
  by_cases hcut : ∃ label number, text = label ++ number ∧ label.utf8ByteSize = 4
  · obtain ⟨label, number, rfl, h⟩ := hcut
    refine ⟨_, afterLabel?_append h, ?_⟩
    rw [octets_append, List.drop_left' ((length_octets label).trans h)]
    split
    · rfl
    · exact octets_append label number
  · have hnone : cutAt? text 4 = none := by
      refine Option.eq_none_iff_forall_ne_some.mpr fun parts hparts => hcut ?_
      exact ⟨_, _, cutAt?_eq_some_iff.mp hparts⟩
    have hunlabelled : ¬Labelled text := fun h => hcut h.exists_cut
    exact ⟨text, by rw [afterLabel?, before?, hnone]; rfl, (if_neg hunlabelled).symm⟩

theorem ofText_of_isSigned {text number : String} (hnumber : afterLabel? text = some number) {n : Nat}
    (hn : IsSigned number.toList n) :
    ofText text = if n < 65536 then ofId n else .error (.vlan 0) := by
  rw [ofText, number?, hnumber, Option.bind_some, signed?_eq_some_iff.mpr hn]

theorem ofText_of_not_isSigned {text number : String} (hnumber : afterLabel? text = some number)
    (hnone : ∀ n, ¬IsSigned number.toList n) : ofText text = .error (.vlan 0) := by
  have hread : signed? 10 number.toList = none :=
    Option.eq_none_iff_forall_ne_some.mpr fun n hn => hnone n (signed?_eq_some_iff.mp hn)
  rw [ofText, number?, hnumber, Option.bind_some, hread]

theorem ofId_eq_ok_iff {id : Nat} {vlan : Vlan} : ofId id = .ok vlan ↔ vlan.id = id := by
  rw [← ofId?_eq_some_iff, ofId]
  cases ofId? id <;> simp

theorem ofId_of_reserved {id : Nat} (h : id = 0 ∨ 4095 ≤ id) : ofId id = .error (.vlan id) := by
  rw [ofId, ofId?, dif_neg (by omega)]

/-- What a text is read as. If its first four octets are those of the label, in either case, what is looked at
is the text with the other octets, which there always is, and otherwise the whole text. It names an identifier
exactly if it denotes the number of that identifier, where a plus sign and leading zeros are allowed. A number
of sixteen bits that is no identifier is named in the fault, and the reserved number 0 stands for a greater one
and for a text that denotes none. -/
theorem ofText_behind_label (text : String) :
    ∃ number, afterLabel? text = some number ∧
      octets number = (if Labelled text then (octets text).drop 4 else octets text) ∧
      (∀ vlan, ofText text = .ok vlan ↔ IsSigned number.toList vlan.id) ∧
      (∀ n, IsSigned number.toList n → n = 0 ∨ 4095 ≤ n ∧ n ≤ 65535 → ofText text = .error (.vlan n)) ∧
      ((∀ n, IsSigned number.toList n → 65535 < n) → ofText text = .error (.vlan 0)) := by
  obtain ⟨number, hnumber, hoctets⟩ := exists_afterLabel? text
  refine ⟨number, hnumber, hoctets, fun vlan => ⟨fun hvlan => ?_, fun hn => ?_⟩, ?_, fun hlarge => ?_⟩
  · by_cases hsome : ∃ n, IsSigned number.toList n
    · obtain ⟨n, hn⟩ := hsome
      rw [ofText_of_isSigned hnumber hn] at hvlan
      split at hvlan
      · rwa [ofId_eq_ok_iff.mp hvlan]
      · cases hvlan
    · rw [ofText_of_not_isSigned hnumber fun n hn => hsome ⟨n, hn⟩] at hvlan
      cases hvlan
  · have hmax := vlan.le_max
    rw [ofText_of_isSigned hnumber hn, if_pos (by omega), ofId_eq_ok_iff]
  · intro n hn hreserved
    rw [ofText_of_isSigned hnumber hn, if_pos (by omega), ofId_of_reserved (by omega)]
  · by_cases hsome : ∃ n, IsSigned number.toList n
    · obtain ⟨n, hn⟩ := hsome
      have := hlarge n hn
      rw [ofText_of_isSigned hnumber hn, if_neg (by omega)]
    · exact ofText_of_not_isSigned hnumber fun n hn => hsome ⟨n, hn⟩

/-- The label is taken off once, and a character that lies across its end hides it. -/
example :
    ofText "vLaN+0100" = .ok ⟨100, by decide, by decide⟩ ∧ ofText "vlanVLAN5" = .error (.vlan 0) ∧
      ofText "Vlan4095" = .error (.vlan 4095) ∧ ofText "vlan65536" = .error (.vlan 0) ∧
      afterLabel? "vla\u00e95" = some "vla\u00e95" := by
  decide

end Vlan

end Neighbours
