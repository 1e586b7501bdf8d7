import Neighbours.Action
import Neighbours.Proofs.Recognition

/-! Tags and messages. A neighbour message is recognised by what the outermost tag of a frame encloses,
so it stays the same message when the tag is replaced or taken off; only the VLAN that it is carried on
follows the tag. What is forwarded to an interface is therefore the message that was received, on the
VLAN of the interface. -/

open Neighbours.Frame

namespace Neighbours.Arrival

variable {frame other inner : Bytes} {vlan carried : Option Vlan} {point place : Point}

/-- Two frames that enclose the same one carry the same message. -/
theorem recognise_of_splitTag (h : splitTag frame = .ok ⟨vlan, inner⟩)
    (hother : splitTag other = .ok ⟨carried, inner⟩) :
    recognise other place = (recognise frame point).map fun arrival =>
      { arrival with point := place, vlan := carried, frame := other } := by
  rw [recognise, recognise, h, hother, Access.ok_bind, Access.ok_bind]
  cases Ethernet.read inner with
  | error refusal => rfl
  | ok ethernet =>
      rw [Access.ok_bind, Access.ok_bind]
      cases messageOf ethernet <;> rfl

theorem ofFrame?_of_splitTag (h : splitTag frame = .ok ⟨vlan, inner⟩)
    (hother : splitTag other = .ok ⟨carried, inner⟩) :
    ofFrame? other place = (ofFrame? frame point).map fun arrival =>
      { arrival with point := place, vlan := carried, frame := other } := by
  rw [ofFrame?, ofFrame?, recognise_of_splitTag h hother]
  cases recognise frame point <;> rfl

theorem ofFrame?_of_not_hasKind (h : ¬HasKind frame) : ofFrame? frame point = none := by
  rw [ofFrame?, recognise, splitTag_of_not_hasKind h]
  rfl

/-- A message stands directly behind the tag, never behind a second one. -/
theorem Recognisable.not_tagged (h : Recognisable frame) : ¬Tagged (enclosed frame) := by
  intro htagged
  rcases h.message with harp | hdiscovery
  · have hkinds : ([0x81, 0x00] : Bytes) = [0x08, 0x06] := htagged.symm.trans harp.kind
    exact absurd hkinds (by decide)
  · have hkinds : ([0x81, 0x00] : Bytes) = [0x86, 0xdd] := htagged.symm.trans hdiscovery.kind
    exact absurd hkinds (by decide)

/-- A new tag neither makes a message of a frame nor unmakes one. -/
theorem ofFrame?_retag_some (frame : Bytes) (point place : Point) (vlan : Vlan) :
    ofFrame? (retag frame (some vlan)) place = (ofFrame? frame point).map fun arrival =>
      { arrival with point := place, vlan := some vlan, frame := retag frame (some vlan) } := by
  by_cases h : HasKind frame
  · refine ofFrame?_of_splitTag (splitTag_of_hasKind h) ?_
    rw [retag_some h]
    exact splitTag_withTag (length_enclosed h)
  · rw [retag_of_not_hasKind h, ofFrame?_of_not_hasKind h, ofFrame?_of_not_hasKind h]
    rfl

theorem ofFrame?_retag_none {arrival : Arrival} (h : ofFrame? frame point = some arrival) :
    ofFrame? (retag frame none) place =
      some { arrival with point := place, vlan := none, frame := retag frame none } := by
  have hframe : Recognisable frame := (ofFrame?_eq_some_iff.mp h).1
  have hsplit : splitTag (retag frame none) = .ok ⟨none, enclosed frame⟩ := by
    rw [retag_none hframe.hasKind]
    exact splitTag_of_not_tagged (length_enclosed hframe.hasKind) hframe.not_tagged
  rw [ofFrame?_of_splitTag (splitTag_of_hasKind hframe.hasKind) hsplit, h]
  rfl

/-- Whatever tag a message is given, or none, it stays what it is. -/
theorem ofFrame?_retag {arrival : Arrival} (h : ofFrame? frame point = some arrival)
    (vlan : Option Vlan) :
    ofFrame? (retag frame vlan) place =
      some { arrival with point := place, vlan := vlan, frame := retag frame vlan } := by
  cases vlan with
  | none => exact ofFrame?_retag_none h
  | some vlan =>
      rw [ofFrame?_retag_some frame point place vlan, h]
      rfl

/-- What an action that forwards to an interface sends is the message as it was received, but on the
VLAN of the interface. -/
theorem ofFrame?_forwardTo {arrival : Arrival} (h : ofFrame? frame point = some arrival)
    {interface : Interface} {inventory : Inventory} {stats : Stats} {emission : Emission}
    (hsent : emission ∈ ((Action.forwardTo interface).perform inventory arrival stats).sent) :
    emission.point = interface.point ∧
      ofFrame? emission.frame place =
        some { arrival with point := place, vlan := interface.vlan, frame := emission.frame } := by
  rw [Action.perform, Transmission.sent_foldl_attempt, List.nil_append] at hsent
  obtain rfl := List.mem_singleton.mp (List.mem_filter.mp hsent).1
  have hkept : arrival.frame = frame := (ofFrame?_eq_some_iff.mp h).2.frame
  refine ⟨rfl, ?_⟩
  show ofFrame? (retag arrival.frame interface.vlan) place = _
  rw [hkept, ofFrame?_retag h]

/-- Recognition does not depend on the tag. A frame that is given a tag carries the message it carried
before, on the VLAN of the tag, and carries none if it did not; a message loses nothing but its VLAN with
its tag; and what is forwarded to an interface is the same message on exactly the VLAN of the
interface. -/
theorem recognised_behind_any_tag (frame : Bytes) (point : Point) :
    (∀ vlan, ofFrame? (retag frame (some vlan)) point =
        (ofFrame? frame point).map fun arrival =>
          { arrival with vlan := some vlan, frame := retag frame (some vlan) }) ∧
      (∀ vlan, ofFrame? (retag frame (some vlan)) point = none ↔ ofFrame? frame point = none) ∧
      ∀ arrival, ofFrame? frame point = some arrival →
        ofFrame? (retag frame none) point =
            some { arrival with vlan := none, frame := retag frame none } ∧
          ∀ interface inventory stats,
            ∀ emission ∈ ((Action.forwardTo interface).perform inventory arrival stats).sent,
              emission.point = interface.point ∧
                ∀ place, ofFrame? emission.frame place =
                  some { arrival with
                    point := place, vlan := interface.vlan, frame := emission.frame } := by
  have hpoint : ∀ arrival, ofFrame? frame point = some arrival → arrival.point = point :=
    fun arrival h => (ofFrame?_eq_some_iff.mp h).2.point
  have htagged : ∀ vlan, ofFrame? (retag frame (some vlan)) point =
      (ofFrame? frame point).map fun arrival =>
        { arrival with vlan := some vlan, frame := retag frame (some vlan) } := by
    intro vlan
    rw [ofFrame?_retag_some frame point point vlan]
    cases h : ofFrame? frame point with
    | none => rfl
    | some arrival => rw [Option.map_some, Option.map_some, ← hpoint arrival h]
  refine ⟨htagged, fun vlan => ?_, fun arrival h => ⟨?_, ?_⟩⟩
  · rw [htagged, Option.map_eq_none_iff]
  · rw [ofFrame?_retag_none h, ← hpoint arrival h]
  · intro interface inventory stats emission hsent
    have hforwarded := fun place => @ofFrame?_forwardTo frame point place arrival h _ _ _ _ hsent
    exact ⟨(hforwarded point).1, fun place => (hforwarded place).2⟩

/-! A request behind a tag with the reserved identifier 4095 has no VLAN until it is forwarded. -/

namespace ReservedTag

def entry : Point := ⟨"leaf", 1⟩

def gateway : Interface := Interface.plain "gateway" ⟨"leaf", 2⟩ |>.withVlan ⟨7, by decide, by decide⟩

def packet : Arp := ⟨.request, .zero, Octets.replicate 4 1, .zero, Octets.replicate 4 2⟩

def request : Bytes :=
  Mac.broadcast.bytes ++ Mac.zero.bytes ++ [0x81, 0x00, 0x0f, 0xff, 0x08, 0x06] ++
    [0x00, 0x01, 0x08, 0x00, 0x06, 0x04, 0x00, 0x01] ++ Mac.zero.bytes ++ List.replicate 4 1 ++
    Mac.zero.bytes ++ List.replicate 4 2

def arrival : Arrival := ⟨entry, .zero, .broadcast, none, .arp packet, request⟩

def inventory : Inventory := .ofLists [gateway.point] []

def emission : Emission := ⟨gateway.point, retag request gateway.vlan⟩

theorem forwarded_request :
    ofFrame? request entry = some arrival ∧
      ofFrame? (retag request none) entry =
        some { arrival with vlan := none, frame := retag request none } ∧
      emission ∈ ((Action.forwardTo gateway).perform inventory arrival .zero).sent ∧
      ∀ place, ofFrame? emission.frame place =
        some { arrival with point := place, vlan := gateway.vlan, frame := emission.frame } := by
  have harrival : ofFrame? request entry = some arrival := by decide +kernel
  have hsent : emission ∈ ((Action.forwardTo gateway).perform inventory arrival .zero).sent := by
    decide
  obtain ⟨-, -, hmessage⟩ := recognised_behind_any_tag request entry
  obtain ⟨huntagged, hforwarded⟩ := hmessage arrival harrival
  exact ⟨harrival, huntagged, hsent, (hforwarded gateway inventory .zero emission hsent).2⟩

end ReservedTag

end Neighbours.Arrival
