import Neighbours.Proofs.Emission
import Neighbours.Proofs.Frame.Retagging
import Neighbours.Proofs.Transparency

/-! Taking tags off. Only the outermost tag of a frame is ever looked at, so a frame whose tag is
followed by a further one still has a tag when the first has come off. Taking the tag off leaves a frame
without a tag exactly if the tags were not stacked, and those of a frame that carries a message never are. -/

namespace Neighbours.Frame

open Bytes

/-- A further tag is announced directly behind the outermost one. -/
def Stacked (frame : Bytes) : Prop :=
  Tagged frame ∧ frame.slice 16 18 = [0x81, 0x00]

instance (frame : Bytes) : Decidable (Stacked frame) :=
  inferInstanceAs (Decidable (_ ∧ _))

variable {frame : Bytes}

theorem tagged_enclosed_iff (h : HasKind frame) : Tagged (enclosed frame) ↔ Stacked frame := by
  by_cases htagged : Tagged frame
  · have htag := h.tag htagged
    have haddresses : (frame.slice 0 12).length = 12 := length_slice (by omega)
    have hkind : (enclosed frame).slice 12 14 = frame.slice 16 18 := by
      rw [enclosed, if_pos htagged, slice_append_right (by omega), haddresses, slice_drop]
    rw [Tagged, hkind, Stacked, and_iff_right htagged]
  · rw [enclosed, if_neg htagged, Stacked]
    exact iff_of_false htagged fun hstacked => htagged hstacked.1

/-- What a tag encloses has a place for a tag, unless it announces one and is cut off there. -/
theorem hasKind_enclosed_iff (h : HasKind frame) :
    HasKind (enclosed frame) ↔ (Stacked frame → 22 ≤ frame.length) := by
  have hlength : Stacked frame → frame.length = (enclosed frame).length + 4 :=
    fun hstacked => length_of_tagged h hstacked.1
  constructor
  · intro hkind hstacked
    have hlong := hkind.tag ((tagged_enclosed_iff h).mpr hstacked)
    have := hlength hstacked
    omega
  · intro hlong
    refine ⟨length_enclosed h, fun htagged => ?_⟩
    have hstacked := (tagged_enclosed_iff h).mp htagged
    have := hlong hstacked
    have := hlength hstacked
    omega

theorem enclosed_enclosed_eq_iff (h : HasKind frame) (hkind : HasKind (enclosed frame)) :
    enclosed (enclosed frame) = enclosed frame ↔ ¬Stacked frame := by
  rw [← tagged_enclosed_iff h]
  constructor
  · intro hsame htagged
    have hlength := length_of_tagged hkind htagged
    rw [hsame] at hlength
    omega
  · intro huntagged
    exact if_neg huntagged

theorem untag?_retag_none_iff (h : HasKind frame) :
    untag? (retag frame none) = some ⟨none, retag frame none⟩ ↔ ¬Stacked frame := by
  rw [retag_none h, untag?_eq_some_iff, ← tagged_enclosed_iff h]
  constructor
  · rintro ⟨hkind, hsame⟩ htagged
    have henclosed := congrArg Untagged.frame hsame
    exact (enclosed_enclosed_eq_iff h hkind).mp henclosed.symm ((tagged_enclosed_iff h).mp htagged)
  · intro huntagged
    have hkind : HasKind (enclosed frame) :=
      ⟨length_enclosed h, fun htagged => absurd htagged huntagged⟩
    have hvlan : tagVlan (enclosed frame) = none := if_neg huntagged
    have hsame : enclosed (enclosed frame) = enclosed frame := if_neg huntagged
    exact ⟨hkind, by rw [hvlan, hsame]⟩

/-- Taking a tag off a second time changes what is long enough for the second tag that it announces. -/
theorem retag_none_retag_none_iff (h : HasKind frame) :
    retag (retag frame none) none = retag frame none ↔ ¬(Stacked frame ∧ 22 ≤ frame.length) := by
  rw [retag_none h]
  by_cases hkind : HasKind (enclosed frame)
  · rw [retag_none hkind, enclosed_enclosed_eq_iff h hkind]
    have hlong := (hasKind_enclosed_iff h).mp hkind
    exact not_congr ⟨fun hstacked => ⟨hstacked, hlong hstacked⟩, And.left⟩
  · rw [retag_of_not_hasKind hkind]
    refine iff_of_true rfl fun hstacked => hkind ?_
    exact (hasKind_enclosed_iff h).mpr fun _ => hstacked.2

/-- Without its tag a frame takes every new one as it does with it, unless its tags are stacked. -/
theorem retag_retag_none_iff (h : HasKind frame) :
    (∀ vlan, retag (retag frame none) vlan = retag frame vlan) ↔ ¬Stacked frame := by
  rw [retag_none h]
  by_cases hstacked : Stacked frame
  · refine iff_of_false (fun hall => ?_) (not_not.mpr hstacked)
    by_cases hkind : HasKind (enclosed frame)
    · have hsame := hall none
      rw [retag_none hkind, retag_none h, enclosed_enclosed_eq_iff h hkind] at hsame
      exact hsame hstacked
    · -- What is cut off in its second tag is not given a new one.
      have hlength := length_enclosed h
      have hsame := congrArg List.length (hall (some ⟨1, by decide, by decide⟩))
      rw [retag_of_not_hasKind hkind, length_retag_some _ h] at hsame
      omega
  · have hkind := (hasKind_enclosed_iff h).mpr fun hagain => absurd hagain hstacked
    refine iff_of_true (fun vlan => ?_) hstacked
    exact retag_congr hkind h ((enclosed_enclosed_eq_iff h hkind).mpr hstacked) vlan

end Neighbours.Frame

namespace Neighbours.Arrival

open Neighbours.Frame

variable {frame : Bytes}

theorem Recognisable.not_stacked (h : Recognisable frame) : ¬Stacked frame := by
  rw [← tagged_enclosed_iff h.hasKind]
  exact h.not_tagged

/-- What leaves for an interface without a VLAN is the frame that the tag encloses. -/
theorem forwarded_untagged_iff {arrival : Arrival} (h : HasKind arrival.frame) {interface : Interface}
    (hplain : interface.vlan = none) :
    (∀ inventory stats,
        ∀ emission ∈ ((Action.forwardTo interface).perform inventory arrival stats).sent,
          ¬Tagged emission.frame) ↔ ¬Stacked arrival.frame := by
  rw [← tagged_enclosed_iff h, ← retag_none h, ← hplain]
  constructor
  · intro hall
    have hedge : (Inventory.ofLists [interface.point] []).isEdge interface.point = true :=
      List.contains_iff_mem.mpr (List.mem_singleton_self _)
    exact hall _ .zero _ (Action.mem_sent_perform_iff.mpr ⟨hedge, .forwardTo interface⟩)
  · intro huntagged inventory stats emission hsent
    obtain ⟨-, hsends⟩ := Action.mem_sent_perform_iff.mp hsent
    cases hsends
    exact huntagged

/-- What taking the tag off leaves. Of a frame that a tag can be taken off, what is left has no tag, takes
every tag as the frame itself does, and is what leaves for an interface without a VLAN, so that no frame with
a tag leaves for it: each of these exactly if the tags of the frame are not stacked. Taking the tag off once
more changes nothing exactly if they are not, or if the second one is cut off. The tags of a frame that
carries a message are never stacked. -/
theorem strip_complete_iff (frame : Bytes) (untagged : Untagged)
    (huntagged : untag? frame = some untagged) :
    (untag? (retag frame none) = some ⟨none, retag frame none⟩ ↔ ¬Stacked frame) ∧
      ((∀ vlan, retag (retag frame none) vlan = retag frame vlan) ↔ ¬Stacked frame) ∧
      (retag (retag frame none) none = retag frame none ↔ ¬(Stacked frame ∧ 22 ≤ frame.length)) ∧
      (∀ arrival interface, arrival.frame = frame → interface.vlan = none →
        ((∀ inventory stats,
            ∀ emission ∈ ((Action.forwardTo interface).perform inventory arrival stats).sent,
              ¬Tagged emission.frame) ↔ ¬Stacked frame)) ∧
      ∀ point arrival, ofFrame? frame point = some arrival → ¬Stacked frame := by
  obtain ⟨h, -⟩ := untag?_eq_some_iff.mp huntagged
  refine ⟨untag?_retag_none_iff h, retag_retag_none_iff h, retag_none_retag_none_iff h, ?_, ?_⟩
  · rintro arrival interface rfl hplain
    exact forwarded_untagged_iff h hplain
  · intro point arrival hrecognised
    exact (ofFrame?_eq_some_iff.mp hrecognised).1.not_stacked

/-! A frame with one tag and one with two, forwarded to an interface without a VLAN. -/

namespace OneTagOrTwo

def addresses : Bytes := Mac.broadcast.bytes ++ [0x00, 0x00, 0x00, 0x00, 0x00, 0xaa]

def bare : Bytes := addresses ++ [0x08, 0x06]

def single : Bytes := addresses ++ [0x81, 0x00, 0x00, 0x14, 0x08, 0x06]

def double : Bytes := addresses ++ [0x81, 0x00, 0x00, 0x0a, 0x81, 0x00, 0x00, 0x14, 0x08, 0x06]

def ten : Vlan := ⟨10, by decide, by decide⟩

def twenty : Vlan := ⟨20, by decide, by decide⟩

def exit : Interface := Interface.plain "exit" ⟨"leaf", 2⟩

def carrying (frame : Bytes) : Arrival :=
  ⟨⟨"leaf", 1⟩, .zero, .broadcast, none, .arp ⟨.request, .zero, Octets.replicate 4 1, .zero,
    Octets.replicate 4 2⟩, frame⟩

theorem stripped_single :
    untag? single = some ⟨some twenty, bare⟩ ∧ ¬Stacked single ∧
      untag? (retag single none) = some ⟨none, retag single none⟩ ∧
      (∀ vlan, retag (retag single none) vlan = retag single vlan) ∧
      ∀ inventory stats,
        ∀ emission ∈ ((Action.forwardTo exit).perform inventory (carrying single) stats).sent,
          ¬Tagged emission.frame := by
  have huntagged : untag? single = some ⟨some twenty, bare⟩ := by decide
  have hsingle : ¬Stacked single := by decide
  obtain ⟨hleft, hretagged, -, hforwarded, -⟩ := strip_complete_iff single _ huntagged
  exact ⟨huntagged, hsingle, hleft.mpr hsingle, hretagged.mpr hsingle,
    (hforwarded (carrying single) exit rfl rfl).mpr hsingle⟩

/-- Of two tags the second stays, comes off when the tag is taken off once more, and leaves for an interface
without a VLAN. -/
theorem double_stays_tagged :
    untag? double = some ⟨some ten, single⟩ ∧
      untag? (retag double none) = some ⟨some twenty, bare⟩ ∧
      untag? (retag double none) ≠ some ⟨none, retag double none⟩ ∧
      retag (retag double none) none ≠ retag double none ∧
      ∃ emission ∈ ((Action.forwardTo exit).perform (.ofLists [exit.point] []) (carrying double)
          .zero).sent,
        Tagged emission.frame := by
  refine ⟨by decide, by decide, by decide, by decide, ⟨exit.point, single⟩, by decide, by decide⟩

end OneTagOrTwo

end Neighbours.Arrival
