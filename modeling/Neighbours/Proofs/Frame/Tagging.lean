import Mathlib.Tactic.ByContra
import Neighbours.Frame.Tag
import Neighbours.Proofs.Frame.Decoding

/-! VLAN tags. A frame either announces a tag where its kind would stand or it has none; the frame
that a tag encloses is what remains without the four octets of the tag. Taking a tag off undoes
putting it on. -/

namespace Neighbours.Frame

open Bytes

/-- The kind of the frame announces a tag. -/
def Tagged (frame : Bytes) : Prop :=
  frame.slice 12 14 = [0x81, 0x00]

instance (frame : Bytes) : Decidable (Tagged frame) :=
  inferInstanceAs (Decidable (_ = _))

/-- A frame as long as the header that it claims to have: a kind follows the hardware addresses, and
a further one its tag. -/
structure HasKind (frame : Bytes) : Prop where
  header : 14 ≤ frame.length
  tag : Tagged frame → 18 ≤ frame.length

/-- The frame that the outermost tag encloses; a frame without a tag encloses itself. -/
def enclosed (frame : Bytes) : Bytes :=
  if Tagged frame then frame.slice 0 12 ++ frame.drop 16 else frame

/-- The control word of a tagged frame. -/
def controlWord (frame : Bytes) : Nat :=
  number (frame.slice 14 16)

def tagVlan (frame : Bytes) : Option Vlan :=
  if Tagged frame then Vlan.ofControlWord? (controlWord frame) else none

theorem number_kind_eq_tagKind_iff {frame : Bytes} (h : 14 ≤ frame.length) :
    number (frame.slice 12 14) = tagKind ↔ Tagged frame :=
  number_slice_eq_word_iff 0x81 0x00 h

theorem length_enclosed {frame : Bytes} (h : HasKind frame) : 14 ≤ (enclosed frame).length := by
  unfold enclosed
  split
  · next htagged =>
      have htag := h.tag htagged
      rw [List.length_append, length_slice (by omega), List.length_drop]
      omega
  · exact h.header

theorem splitTag_of_hasKind {frame : Bytes} (h : HasKind frame) :
    splitTag frame = .ok ⟨tagVlan frame, enclosed frame⟩ := by
  have hheader := h.header
  have hkind : frame.wordAt 12 = .ok (number (frame.slice 12 14)) := wordAt_of_le (by omega)
  rw [splitTag, if_neg (Nat.not_lt_of_le hheader), hkind, Access.ok_bind]
  by_cases htagged : Tagged frame
  · have htag := h.tag htagged
    have hcontrol : frame.wordAt 14 = .ok (controlWord frame) := wordAt_of_le (by omega)
    have haddresses : frame.window 0 12 = .ok (frame.slice 0 12) :=
      window_of_le (by omega) (by omega)
    have hrest : frame.window 16 frame.length = .ok (frame.drop 16) := by
      rw [window_of_le (by omega) (Nat.le_refl _), slice_to_length]
    rw [if_neg (not_not.mpr ((number_kind_eq_tagKind_iff hheader).mpr htagged)),
      if_neg (Nat.not_lt_of_le htag), hcontrol, Access.ok_bind, haddresses, Access.ok_bind, hrest,
      tagVlan, if_pos htagged, enclosed, if_pos htagged]
    rfl
  · rw [if_pos (fun hkind => htagged ((number_kind_eq_tagKind_iff hheader).mp hkind)), tagVlan,
      if_neg htagged, enclosed, if_neg htagged]

theorem splitTag_of_not_hasKind {frame : Bytes} (h : ¬HasKind frame) :
    splitTag frame = .error .unsuited := by
  unfold splitTag
  by_cases hshort : frame.length < 14
  · rw [if_pos hshort]
  have hheader : 14 ≤ frame.length := Nat.le_of_not_lt hshort
  have hkind : frame.wordAt 12 = .ok (number (frame.slice 12 14)) := wordAt_of_le (by omega)
  have htagged : Tagged frame := by
    by_contra huntagged
    exact h ⟨hheader, fun htagged => absurd htagged huntagged⟩
  have hcut : frame.length < 18 := by
    by_contra hlength
    exact h ⟨hheader, fun _ => Nat.le_of_not_lt hlength⟩
  rw [if_neg hshort, hkind, Access.ok_bind,
    if_neg (not_not.mpr ((number_kind_eq_tagKind_iff hheader).mpr htagged)), if_pos hcut]

theorem decides_splitTag (frame : Bytes) :
    (splitTag frame).Decides (HasKind frame) (· = ⟨tagVlan frame, enclosed frame⟩) where
  accepts h := ⟨_, splitTag_of_hasKind h, rfl⟩
  refuses := splitTag_of_not_hasKind
  unique hl hr := hl.trans hr.symm

/-- A frame with a tag of priority zero between its hardware addresses and the rest. -/
def withTag (frame : Bytes) (vlan : Vlan) : Bytes :=
  frame.slice 0 12 ++ (([0x81, 0x00] ++ ofWord vlan.id) ++ frame.drop 12)

variable {frame : Bytes} {vlan : Vlan}

theorem insertTag_eq (h : 12 ≤ frame.length) :
    insertTag frame vlan = .ok (withTag frame vlan) := by
  have haddresses : frame.window 0 12 = .ok (frame.slice 0 12) := window_of_le (by omega) h
  have htag : tag vlan = .ok ([0x81, 0x00] ++ ofWord vlan.id) := rfl
  have hrest : frame.window 12 frame.length = .ok (frame.drop 12) := by
    rw [window_of_le h (Nat.le_refl _), slice_to_length]
  rw [insertTag, haddresses, Access.ok_bind, htag, Access.ok_bind, hrest, Access.ok_bind, withTag,
    List.append_assoc (frame.slice 0 12)]
  rfl

theorem length_withTag (vlan : Vlan) (h : 12 ≤ frame.length) :
    (withTag frame vlan).length = frame.length + 4 := by
  simp only [withTag, List.length_append, length_slice h, length_ofWord, List.length_drop,
    List.length_cons, List.length_nil]
  omega

theorem slice_withTag_tag (h : 12 ≤ frame.length) {start stop : Nat} (hstart : 12 ≤ start)
    (hstop : stop ≤ 16) :
    (withTag frame vlan).slice start stop =
      slice ([0x81, 0x00] ++ ofWord vlan.id) (start - 12) (stop - 12) := by
  have haddresses : (frame.slice 0 12).length = 12 := length_slice h
  rw [withTag, slice_append_right (by omega), slice_append_left, haddresses]
  rw [haddresses, List.length_append, length_ofWord]
  show stop - 12 ≤ 4
  omega

theorem tagged_withTag (h : 12 ≤ frame.length) : Tagged (withTag frame vlan) := by
  rw [Tagged, slice_withTag_tag h (Nat.le_refl _) (by omega)]
  rfl

theorem controlWord_withTag (h : 12 ≤ frame.length) :
    controlWord (withTag frame vlan) = vlan.id := by
  have hid := vlan.le_max
  have hslice : slice ([0x81, 0x00] ++ ofWord vlan.id) (14 - 12) (16 - 12) = ofWord vlan.id := rfl
  rw [controlWord, slice_withTag_tag h (by omega) (Nat.le_refl _), hslice, ofWord, number_pair,
    word_ofWord (by omega)]

theorem drop_withTag (h : 12 ≤ frame.length) : (withTag frame vlan).drop 16 = frame.drop 12 := by
  have haddresses : (frame.slice 0 12).length = 12 := length_slice h
  rw [withTag, ← List.append_assoc, List.drop_left' (by rw [List.length_append, haddresses]; rfl)]

theorem enclosed_withTag (h : 12 ≤ frame.length) : enclosed (withTag frame vlan) = frame := by
  have haddresses : (frame.slice 0 12).length = 12 := length_slice h
  have hfront : (withTag frame vlan).slice 0 12 = frame.slice 0 12 := by
    rw [withTag, slice_append_left (by omega), slice_slice (by omega)]
  rw [enclosed, if_pos (tagged_withTag h), hfront, drop_withTag h]
  exact List.take_append_drop 12 frame

/-- What a tag is put on is what comes off, with the identifier of the tag. -/
theorem splitTag_withTag (h : 14 ≤ frame.length) :
    splitTag (withTag frame vlan) = .ok ⟨some vlan, frame⟩ := by
  have haddresses : 12 ≤ frame.length := by omega
  have hid := vlan.le_max
  have hlength := length_withTag vlan haddresses
  have hvlan : tagVlan (withTag frame vlan) = some vlan := by
    rw [tagVlan, if_pos (tagged_withTag haddresses), controlWord_withTag haddresses,
      Vlan.ofControlWord?, Nat.mod_eq_of_lt (by omega), Vlan.ofId?_id]
  rw [splitTag_of_hasKind ⟨by omega, fun _ => by omega⟩, hvlan, enclosed_withTag haddresses]

theorem splitTag_of_not_tagged (h : 14 ≤ frame.length) (huntagged : ¬Tagged frame) :
    splitTag frame = .ok ⟨none, frame⟩ := by
  rw [splitTag_of_hasKind ⟨h, fun htagged => absurd htagged huntagged⟩, tagVlan,
    if_neg huntagged, enclosed, if_neg huntagged]

/-- What has no place for a tag stays as it is. -/
theorem retag_of_not_hasKind (h : ¬HasKind frame) (vlan : Option Vlan) :
    retag frame vlan = frame := by
  rw [retag, replaceTag, splitTag_of_not_hasKind h]
  rfl

theorem retag_none (h : HasKind frame) : retag frame none = enclosed frame := by
  rw [retag, replaceTag, splitTag_of_hasKind h]
  rfl

theorem retag_some (h : HasKind frame) : retag frame (some vlan) = withTag (enclosed frame) vlan := by
  have hlength := length_enclosed h
  have hinserted : insertTag (enclosed frame) vlan = .ok (withTag (enclosed frame) vlan) :=
    insertTag_eq (by omega)
  rw [retag, replaceTag, splitTag_of_hasKind h]
  simp only [hinserted]
  rfl

end Neighbours.Frame
