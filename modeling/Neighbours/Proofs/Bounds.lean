import Neighbours.Proofs.Answer
import Neighbours.Proofs.Recognition

/-! No access leaves its buffer. Whatever octets arrive, and however long they claim to be, what reads
them stays inside of them; and what writes an answer stays inside of the buffer that it has sized for
it. The options of a discovery message are walked with a position in the octets, which moves on in
steps of eight octets or more, so that the walk comes to its end. -/

open Neighbours.Bytes Neighbours.Frame

namespace Neighbours

namespace Frame.DiscoveryOption

theorem readAll_ne_outside (octets : Bytes) : readAll octets ≠ .error .outside := by
  by_cases h : OptionSequence octets
  · obtain ⟨options, hread⟩ := h.exists_readAll
    rw [hread]
    exact Access.ok_ne_outside options
  · rw [OptionSequence.readAll_of_not h]
    exact Access.unsuited_ne_outside

/-- The walk over options from a position on, if it ends within a number of rounds. Each round takes
the octets that remain as a part of the whole. -/
def walk (octets : Bytes) : (rounds position : Nat) → Option (Access (List DiscoveryOption))
  | 0, _ => none
  | rounds + 1, position =>
    if octets.length ≤ position then some (.ok [])
    else
      match (octets.window position octets.length).bind read with
      | .error refusal => some (.error refusal)
      | .ok (_, 0) => some (.error .unsuited)
      | .ok (option, units + 1) =>
        (walk octets rounds (position + 8 * (units + 1))).map (Except.map (option.toList ++ ·))

/-- An option that is read does not reach beyond the octets it is read from. -/
theorem le_length_of_read {octets : Bytes} {option : Option DiscoveryOption} {units : Nat}
    (h : read octets = .ok (option, units)) : 8 * units ≤ octets.length := by
  rcases read_cases octets with ⟨kind, size, rest, found, rfl, hfits, hok⟩ | hrefused
  · rw [h] at hok
    have hunits : units = size.toNat := congrArg Prod.snd (Except.ok.inj hok)
    rw [hunits]
    exact hfits.room
  · rw [h] at hrefused
    cases hrefused

/-- What becomes of octets that do not end yet is decided by the option at their start. -/
theorem readAll_of_ne_nil {octets : Bytes} (h : octets ≠ []) :
    readAll octets =
      match read octets with
      | .error refusal => .error refusal
      | .ok (_, 0) => .error .unsuited
      | .ok (option, units + 1) =>
        (readAll (octets.drop (8 * (units + 1)))).map (option.toList ++ ·) := by
  obtain ⟨first, more, rfl⟩ := List.exists_cons_of_ne_nil h
  exact readAll.eq_def (first :: more)

/-- A round for every eight octets that remain, and one more, bring the walk to its end. -/
theorem walk_eq {octets : Bytes} {rounds position : Nat} (hposition : position ≤ octets.length)
    (henough : octets.length - position < 8 * rounds) :
    walk octets rounds position = some (readAll (octets.drop position)) := by
  induction rounds generalizing position with
  | zero => omega
  | succ rounds ih =>
      rw [walk]
      by_cases hend : octets.length ≤ position
      · rw [if_pos hend, List.drop_eq_nil_of_le hend, readAll]
      have hround : (octets.window position octets.length).bind read =
          read (octets.drop position) := by
        rw [window_of_le hposition (Nat.le_refl _), slice_to_length]
        rfl
      rw [if_neg hend, hround, readAll_of_ne_nil (mt List.drop_eq_nil_iff.mp hend)]
      cases hread : read (octets.drop position) with
      | error refusal => rfl
      | ok found =>
          obtain ⟨option, _ | units⟩ := found
          · rfl
          · have hnext := le_length_of_read hread
            rw [List.length_drop] at hnext
            have hrest := ih (show position + 8 * (units + 1) ≤ octets.length by omega) (by omega)
            simp only [hrest, Option.map_some, List.drop_drop]

end Frame.DiscoveryOption

namespace Frame.DiscoveryPacket

/-- Reads a message and its flags, which are where a solicitation has reserved octets. Nothing that is
recognised depends on them. -/
def readWithFlags (octets : Bytes) : Access (Discovery × UInt8) := do
  let packet ← Ipv6Packet.read octets
  let message ← ofPayload packet
  let flags ← packet.payload.octetAt 4
  return (message, flags)

/-- Wherever there is a message there are its flags. -/
theorem map_fst_readWithFlags (octets : Bytes) :
    (readWithFlags octets).map Prod.fst = read octets := by
  rw [readWithFlags, read]
  cases Ipv6Packet.read octets with
  | error refusal => rfl
  | ok packet =>
      rw [Access.ok_bind, Access.ok_bind]
      cases hmessage : ofPayload packet with
      | error refusal => rfl
      | ok message =>
          obtain ⟨⟨-, hleast, -, -⟩, -⟩ := (decides_ofPayload packet).eq_ok_iff.mp hmessage
          rw [Access.ok_bind, octetAt_of_lt (show 4 < packet.payload.length by omega)]
          rfl

theorem readWithFlags_ne_outside (octets : Bytes) : readWithFlags octets ≠ .error .outside := by
  intro houtside
  have hread := map_fst_readWithFlags octets
  rw [houtside] at hread
  exact (decides_read octets).ne_outside hread.symm

end Frame.DiscoveryPacket

namespace Frame

/-- A tag is replaced in every string; what has no place for one is left alone. -/
theorem replaceTag_eq (frame : Bytes) (vlan : Option Vlan) :
    replaceTag frame vlan = .ok (retag frame vlan) := by
  by_cases h : HasKind frame
  · cases vlan with
    | none => rw [retag_none h, replaceTag, splitTag_of_hasKind h]
    | some vlan =>
        have hlength := length_enclosed h
        rw [retag_some h, replaceTag, splitTag_of_hasKind h]
        exact insertTag_eq (show 12 ≤ (enclosed frame).length by omega)
  · rw [retag_of_not_hasKind h, replaceTag, splitTag_of_not_hasKind h]

end Frame

namespace Arrival

theorem buildAnswer_eq (arrival : Arrival) (mac : Mac) :
    buildAnswer arrival mac = .ok (arrival.answer mac) := by
  have hbuilt : ∃ frame, buildAnswer arrival mac = .ok frame := by
    rw [buildAnswer, untaggedAnswer_eq, Access.ok_bind]
    cases arrival.vlan with
    | none => exact ⟨_, rfl⟩
    | some vlan => exact ⟨_, replaceTag_eq _ _⟩
  obtain ⟨frame, heq⟩ := hbuilt
  rw [answer, heq]
  rfl

/-- No octets and no message make an access leave its buffer. Taking a tag off, reading any of the
packets and recognising a message either succeed or refuse their octets, and replacing a tag and
building an answer always succeed; and the walk over the options of a discovery message ends, with what
its reader reads, after one round for every eight octets and one more at most. -/
theorem accesses_inside :
    (∀ frame, splitTag frame ≠ .error .outside) ∧
      (∀ frame vlan, replaceTag frame vlan = .ok (retag frame vlan)) ∧
      (∀ frame point, recognise frame point ≠ .error .outside) ∧
      (∀ octets, Ethernet.read octets ≠ .error .outside ∧ ArpPacket.read octets ≠ .error .outside ∧
        Ipv6Packet.read octets ≠ .error .outside ∧ DiscoveryPacket.read octets ≠ .error .outside ∧
        DiscoveryPacket.readWithFlags octets ≠ .error .outside ∧
        DiscoveryOption.readAll octets ≠ .error .outside) ∧
      (∀ arrival mac, buildAnswer arrival mac = .ok (arrival.answer mac)) ∧
      ∀ octets, DiscoveryOption.walk octets (octets.length / 8 + 1) 0 =
        some (DiscoveryOption.readAll octets) := by
  refine ⟨fun frame => (decides_splitTag frame).ne_outside, replaceTag_eq,
    fun frame point => (decides_recognise frame point).ne_outside,
    fun octets => ⟨?_, ?_, ?_, ?_, ?_, ?_⟩, buildAnswer_eq, fun octets => ?_⟩
  · exact (Ethernet.decides_read octets).ne_outside
  · exact (ArpPacket.decides_read octets).ne_outside
  · exact (Ipv6Packet.decides_read octets).ne_outside
  · exact (DiscoveryPacket.decides_read octets).ne_outside
  · exact DiscoveryPacket.readWithFlags_ne_outside octets
  · exact DiscoveryOption.readAll_ne_outside octets
  · exact DiscoveryOption.walk_eq (Nat.zero_le _) (by omega)

end Arrival

end Neighbours
