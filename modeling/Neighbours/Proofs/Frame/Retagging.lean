import Neighbours.Proofs.Frame.Tagging

/-! Replacing tags. The tag of a frame is read and replaced like a field: what has been put on is what
comes off, and of several tags put on one after the other the last one stays. Putting back the
identifier that came off gives the frame as it was, unless its control word held more than an
identifier, or a reserved one. -/

namespace Neighbours.Frame

open Bytes

variable {frame : Bytes} {vlan : Vlan}

theorem untag?_of_hasKind (h : HasKind frame) :
    untag? frame = some ⟨tagVlan frame, enclosed frame⟩ := by
  rw [untag?, splitTag_of_hasKind h]
  rfl

theorem untag?_of_not_hasKind (h : ¬HasKind frame) : untag? frame = none := by
  rw [untag?, splitTag_of_not_hasKind h]
  rfl

theorem untag?_eq_some_iff {untagged : Untagged} :
    untag? frame = some untagged ↔ HasKind frame ∧ untagged = ⟨tagVlan frame, enclosed frame⟩ := by
  by_cases h : HasKind frame
  · rw [untag?_of_hasKind h, Option.some.injEq, and_iff_right h, eq_comm]
  · simp [untag?_of_not_hasKind h, h]

theorem untag?_eq_none_iff : untag? frame = none ↔ ¬HasKind frame := by
  by_cases h : HasKind frame
  · simp [untag?_of_hasKind h, h]
  · simp [untag?_of_not_hasKind h, h]

theorem hasKind_withTag (vlan : Vlan) (h : 14 ≤ frame.length) : HasKind (withTag frame vlan) := by
  have hlength := length_withTag vlan (show 12 ≤ frame.length by omega)
  exact ⟨by omega, fun _ => by omega⟩

theorem hasKind_retag_some (vlan : Vlan) (h : HasKind frame) : HasKind (retag frame (some vlan)) := by
  rw [retag_some h]
  exact hasKind_withTag vlan (length_enclosed h)

theorem enclosed_retag_some (vlan : Vlan) (h : HasKind frame) :
    enclosed (retag frame (some vlan)) = enclosed frame := by
  have hlength := length_enclosed h
  rw [retag_some h, enclosed_withTag (by omega)]

/-- What a frame becomes with another tag is decided by what its own tag encloses. -/
theorem retag_congr {other : Bytes} (h : HasKind frame) (hother : HasKind other)
    (henclosed : enclosed frame = enclosed other) (vlan : Option Vlan) :
    retag frame vlan = retag other vlan := by
  cases vlan with
  | none => rw [retag_none h, retag_none hother, henclosed]
  | some vlan => rw [retag_some h, retag_some hother, henclosed]

/-- A tag that is replaced leaves no trace. -/
theorem retag_retag_some (frame : Bytes) (vlan : Vlan) (other : Option Vlan) :
    retag (retag frame (some vlan)) other = retag frame other := by
  by_cases h : HasKind frame
  · exact retag_congr (hasKind_retag_some vlan h) h (enclosed_retag_some vlan h) other
  · rw [retag_of_not_hasKind h (some vlan)]

theorem untag?_retag_some (vlan : Vlan) (h : HasKind frame) :
    untag? (retag frame (some vlan)) = some ⟨some vlan, enclosed frame⟩ := by
  rw [retag_some h, untag?, splitTag_withTag (length_enclosed h)]
  rfl

theorem length_retag_some (vlan : Vlan) (h : HasKind frame) :
    (retag frame (some vlan)).length = (enclosed frame).length + 4 := by
  have hlength := length_enclosed h
  rw [retag_some h, length_withTag vlan (by omega)]

section Tagged

variable (h : HasKind frame) (htagged : Tagged frame)
include htagged

/-- The parts of a tagged frame: the hardware addresses, the tag and what follows it. -/
theorem eq_append_of_tagged :
    frame = frame.slice 0 12 ++ (([0x81, 0x00] ++ frame.slice 14 16) ++ frame.drop 16) := by
  have hkind : frame.slice 12 14 = [0x81, 0x00] := htagged
  calc frame
      = frame.drop 0 := rfl
    _ = frame.slice 0 12 ++ (frame.slice 12 14 ++ (frame.slice 14 16 ++ frame.drop 16)) := by
        rw [← drop_eq_slice_append (by omega), ← drop_eq_slice_append (by omega),
          ← drop_eq_slice_append (by omega)]
    _ = frame.slice 0 12 ++ (([0x81, 0x00] ++ frame.slice 14 16) ++ frame.drop 16) := by
        rw [hkind, List.append_assoc]

include h

theorem length_of_tagged : frame.length = (enclosed frame).length + 4 := by
  have htag := h.tag htagged
  rw [enclosed, if_pos htagged, List.length_append, length_slice (by omega), List.length_drop]
  omega

theorem withTag_enclosed (vlan : Vlan) :
    withTag (enclosed frame) vlan =
      frame.slice 0 12 ++ (([0x81, 0x00] ++ ofWord vlan.id) ++ frame.drop 16) := by
  have haddresses : (frame.slice 0 12).length = 12 := length_slice (by have := h.header; omega)
  rw [withTag, enclosed, if_pos htagged, slice_append_left (Nat.le_of_eq haddresses.symm),
    slice_of_length_eq haddresses, List.drop_left' haddresses]

theorem slice_eq_ofWord_iff :
    frame.slice 14 16 = ofWord vlan.id ↔ controlWord frame = vlan.id := by
  have htag := h.tag htagged
  have hnumber : number (frame.slice 14 16) =
        word (UInt8.ofNat (vlan.id / 256)) (UInt8.ofNat (vlan.id % 256)) ↔
      frame.slice 14 16 = ofWord vlan.id :=
    number_slice_eq_word_iff _ _ (by omega)
  rw [← hnumber, word_ofWord (Nat.lt_of_le_of_lt vlan.le_max (by decide)), controlWord]

/-- A tag that is put in the place of another gives the same frame exactly if its identifier is all
that the control word holds. -/
theorem withTag_enclosed_eq_iff :
    withTag (enclosed frame) vlan = frame ↔ controlWord frame = vlan.id := by
  rw [withTag_enclosed h htagged, ← slice_eq_ofWord_iff h htagged]
  conv_lhs => rhs; rw [eq_append_of_tagged htagged]
  rw [List.append_right_inj, List.append_left_inj, List.append_right_inj, eq_comm]

end Tagged

theorem tagVlan_eq_none_iff (htagged : Tagged frame) :
    tagVlan frame = none ↔ controlWord frame % 4096 = 0 ∨ controlWord frame % 4096 = 4095 := by
  have hlow : controlWord frame % 4096 < 4096 := Nat.mod_lt _ (by decide)
  rw [tagVlan, if_pos htagged, Vlan.ofControlWord?, Vlan.ofId?, dite_eq_right_iff]
  constructor
  · intro hnone
    by_contra hid
    exact absurd (hnone (by omega)) (Option.some_ne_none _)
  · intro hreserved hid
    omega

theorem id_of_tagVlan (htagged : Tagged frame) (hvlan : tagVlan frame = some vlan) :
    vlan.id = controlWord frame % 4096 := by
  rw [tagVlan, if_pos htagged] at hvlan
  exact Vlan.ofId?_eq_some_iff.mp hvlan

/-- Putting back what came off restores a frame unless its tag held more than can be put back. -/
theorem retag_tagVlan_eq_iff (h : HasKind frame) :
    retag frame (tagVlan frame) = frame ↔
      ¬Tagged frame ∨ 1 ≤ controlWord frame ∧ controlWord frame ≤ 4094 := by
  by_cases htagged : Tagged frame
  · rw [or_iff_right (not_not.mpr htagged)]
    cases hvlan : tagVlan frame with
    | none =>
        have hreserved := (tagVlan_eq_none_iff htagged).mp hvlan
        have hlength := length_of_tagged h htagged
        constructor
        · intro hsame
          rw [retag_none h] at hsame
          exact absurd (congrArg List.length hsame) (by omega)
        · intro hrange
          omega
    | some vlan =>
        have hid := id_of_tagVlan htagged hvlan
        have hpos := vlan.pos
        have hmax := vlan.le_max
        rw [retag_some h, withTag_enclosed_eq_iff h htagged]
        omega
  · have huntagged : tagVlan frame = none := if_neg htagged
    have henclosed : enclosed frame = frame := if_neg htagged
    rw [huntagged, retag_none h, henclosed]
    exact iff_of_true rfl (Or.inl htagged)

/-- The laws of replacing tags. Where a tag can be taken off, one that has been put on comes off again
and leaves the same frame, which it made four octets longer; and putting back the identifier that came
off restores the frame exactly if it had no tag, or if the control word of its tag was an identifier
without any further bits. In any string, the last of two tags is the one that stays, and a string that
has no place for a tag stays as it is. -/
theorem retag_laws (frame : Bytes) :
    (∀ untagged, untag? frame = some untagged →
        (∀ vlan, untag? (retag frame (some vlan)) = some ⟨some vlan, untagged.frame⟩ ∧
          (retag frame (some vlan)).length = untagged.frame.length + 4) ∧
        (retag frame untagged.vlan = frame ↔
          ¬Tagged frame ∨ 1 ≤ controlWord frame ∧ controlWord frame ≤ 4094)) ∧
      (∀ vlan other, retag (retag frame (some vlan)) other = retag frame other) ∧
      (untag? frame = none → ∀ vlan, retag frame vlan = frame) := by
  refine ⟨?_, retag_retag_some frame, ?_⟩
  · intro untagged huntagged
    obtain ⟨h, rfl⟩ := untag?_eq_some_iff.mp huntagged
    exact ⟨fun vlan => ⟨untag?_retag_some vlan h, length_retag_some vlan h⟩, retag_tagVlan_eq_iff h⟩
  · intro hnone vlan
    exact retag_of_not_hasKind (untag?_eq_none_iff.mp hnone) vlan

/-! Two tags, the outer one with priority bits, the inner one cut off behind its kind. -/

namespace CutShort

def five : Vlan := ⟨5, by decide, by decide⟩

def nine : Vlan := ⟨9, by decide, by decide⟩

def inner : Bytes := List.replicate 12 0 ++ [0x81, 0x00]

def outer : Bytes := List.replicate 12 0 ++ [0x81, 0x00, 0xa0, 0x05, 0x81, 0x00]

theorem retag_outer_and_inner :
    untag? outer = some ⟨some five, inner⟩ ∧
      untag? (retag outer (some nine)) = some ⟨some nine, inner⟩ ∧
      (retag outer (some nine)).length = 18 ∧ retag outer (some five) ≠ outer ∧
      untag? inner = none ∧ retag inner (some nine) = inner := by
  have houter : untag? outer = some ⟨some five, inner⟩ := by decide
  have hinner : untag? inner = none := by decide
  obtain ⟨htag, hsame⟩ := (retag_laws outer).1 _ houter
  obtain ⟨htaken, hlength⟩ := htag nine
  refine ⟨houter, htaken, hlength, ?_, hinner, (retag_laws inner).2.2 hinner _⟩
  exact mt hsame.mp (by decide)

end CutShort

end Neighbours.Frame
