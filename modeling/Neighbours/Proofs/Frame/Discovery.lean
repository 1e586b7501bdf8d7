import Mathlib.Tactic.ByContra
import Neighbours.Frame.DiscoveryPacket
import Neighbours.Proofs.Frame.Reading

/-! Neighbour discovery messages as their reader takes them. The options that end a message follow
each other without a gap, each as long as its size says and long enough for its kind; nothing else of
an option's content decides whether the message is readable. -/

namespace Neighbours.Frame

open Bytes

/-- Options one after the other: each has its kind, its size in units of eight octets and its
content. A network option takes four units at least, and a redirected packet six. -/
inductive OptionSequence : Bytes → Prop
  | nil : OptionSequence []
  | cons {kind units : UInt8} {content rest : Bytes} (nonzero : 0 < units.toNat)
      (size : content.length + 2 = 8 * units.toNat) (network : kind = 3 → 32 ≤ 8 * units.toNat)
      (redirected : kind = 4 → 48 ≤ 8 * units.toNat) (more : OptionSequence rest) :
      OptionSequence (kind :: units :: (content ++ rest))

namespace DiscoveryOption

theorem leastSize_le_iff {kind : UInt8} {size : Nat} :
    leastSize kind ≤ size ↔ (kind = 3 → 32 ≤ size) ∧ (kind = 4 → 48 ≤ size) := by
  unfold leastSize
  by_cases hnetwork : kind = 3
  · subst hnetwork
    simp
  · by_cases hredirected : kind = 4
    · subst hredirected
      simp
    · simp [hnetwork, hredirected]

/-- The content of an option that fits is read without leaving the octets that remain. -/
theorem content_ne_outside {octets : Bytes} {kind : UInt8} {units : Nat}
    (hfits : 8 * units ≤ octets.length) (hleast : leastSize kind ≤ 8 * units) :
    content octets kind units ≠ .error .outside := by
  have hwindow : ∀ start stop, start ≤ stop → stop ≤ 8 * units →
      octets.window start stop ≠ .error .outside := by
    intro start stop hstart hstop
    rw [window_of_le hstart (Nat.le_trans hstop hfits)]
    exact Access.ok_ne_outside _
  have hredirected := (leastSize_le_iff.mp hleast).2
  unfold content
  split
  · split
    · exact Access.map_ne_outside (hwindow 2 8 (by omega) (by omega)) _
    · exact Access.unsuited_ne_outside
  split
  · split
    · exact Access.map_ne_outside (hwindow 2 8 (by omega) (by omega)) _
    · exact Access.unsuited_ne_outside
  split
  · split
    · obtain ⟨address, haddress, -⟩ := exists_octetsAt 16 16
        (show 16 + 16 ≤ octets.length by omega)
      rw [octetAt_of_lt (by omega), Access.ok_bind, octetAt_of_lt (by omega), Access.ok_bind,
        window_of_le (by omega) (by omega), Access.ok_bind, window_of_le (by omega) (by omega),
        Access.ok_bind, haddress]
      exact Access.ok_ne_outside _
    · exact Access.unsuited_ne_outside
  split
  · next hkind =>
      rw [window_of_le (by have := hredirected hkind; omega) hfits, Access.ok_bind]
      exact Access.map_ne_outside (Ipv6Packet.decides_read _).ne_outside _
  split
  · split
    · exact Access.map_ne_outside (hwindow 4 8 (by omega) (by omega)) _
    · exact Access.unsuited_ne_outside
  split
  · exact Access.unsuited_ne_outside
  · exact Access.map_ne_outside (hwindow 2 (8 * units) (by omega) (by omega)) _

/-- The option at the start of a string has room in it and is long enough for its kind. -/
structure Fits (octets : Bytes) (kind units : UInt8) : Prop where
  least : 8 ≤ octets.length
  room : 8 * units.toNat ≤ octets.length
  content : leastSize kind ≤ 8 * units.toNat

theorem read_of_fits {kind units : UInt8} {rest : Bytes}
    (h : Fits (kind :: units :: rest) kind units) :
    ∃ option, read (kind :: units :: rest) = .ok (option, units.toNat) := by
  obtain ⟨option, hoption⟩ := Access.exists_tolerate (content_ne_outside h.room h.content)
  have hkind : octetAt (kind :: units :: rest) 0 = .ok kind := octetAt_eq_ok_iff.mpr rfl
  have hunits : octetAt (kind :: units :: rest) 1 = .ok units := octetAt_eq_ok_iff.mpr rfl
  refine ⟨option, ?_⟩
  rw [read, if_neg (Nat.not_lt_of_le h.least), hkind, Access.ok_bind, hunits, Access.ok_bind,
    if_neg (Nat.not_lt_of_le h.room), if_neg (Nat.not_lt_of_le h.content), hoption]
  rfl

theorem read_of_not_fits {kind units : UInt8} {rest : Bytes}
    (h : ¬Fits (kind :: units :: rest) kind units) :
    read (kind :: units :: rest) = .error .unsuited := by
  have hkind : octetAt (kind :: units :: rest) 0 = .ok kind := octetAt_eq_ok_iff.mpr rfl
  have hunits : octetAt (kind :: units :: rest) 1 = .ok units := octetAt_eq_ok_iff.mpr rfl
  unfold read
  by_cases hleast : List.length (kind :: units :: rest) < 8
  · rw [if_pos hleast]
  rw [if_neg hleast, hkind, Access.ok_bind, hunits, Access.ok_bind]
  by_cases hroom : List.length (kind :: units :: rest) < 8 * units.toNat
  · rw [if_pos hroom]
  rw [if_neg hroom, if_pos]
  by_contra hcontent
  exact h ⟨Nat.le_of_not_lt hleast, Nat.le_of_not_lt hroom, Nat.le_of_not_lt hcontent⟩

theorem read_cases (octets : Bytes) :
    (∃ kind units rest option, octets = kind :: units :: rest ∧ Fits octets kind units ∧
        read octets = .ok (option, units.toNat)) ∨
      read octets = .error .unsuited := by
  match octets with
  | [] => exact Or.inr rfl
  | [_] => exact Or.inr rfl
  | kind :: units :: rest =>
      by_cases hfits : Fits (kind :: units :: rest) kind units
      · obtain ⟨option, hread⟩ := read_of_fits hfits
        exact Or.inl ⟨kind, units, rest, option, rfl, hfits, hread⟩
      · exact Or.inr (read_of_not_fits hfits)

end DiscoveryOption

namespace OptionSequence

open DiscoveryOption

/-- An option that fits, followed by a sequence, makes a sequence. -/
theorem of_drop {kind units : UInt8} {rest : Bytes} (hfits : Fits (kind :: units :: rest) kind units)
    (hnonzero : 0 < units.toNat)
    (hmore : OptionSequence ((kind :: units :: rest).drop (8 * units.toNat))) :
    OptionSequence (kind :: units :: rest) := by
  obtain ⟨network, redirected⟩ := leastSize_le_iff.mp hfits.content
  obtain ⟨n, hn⟩ : ∃ n, 8 * units.toNat = n + 2 := ⟨8 * units.toNat - 2, by omega⟩
  have hroom : n ≤ rest.length := by
    have := hfits.room
    simp only [List.length_cons] at this
    omega
  rw [hn, List.drop_succ_cons, List.drop_succ_cons] at hmore
  have hcontent : (rest.take n).length + 2 = 8 * units.toNat := by
    rw [List.length_take, Nat.min_eq_left hroom, hn]
  have hsequence := cons hnonzero hcontent network redirected hmore
  rwa [List.take_append_drop] at hsequence

theorem exists_readAll {octets : Bytes} (h : OptionSequence octets) :
    ∃ options, readAll octets = .ok options := by
  induction h with
  | nil => exact ⟨[], by rw [readAll]⟩
  | @cons kind units content rest nonzero size network redirected more ih =>
      obtain ⟨found, hfound⟩ := ih
      have hfits : Fits (kind :: units :: (content ++ rest)) kind units := by
        refine ⟨?_, ?_, leastSize_le_iff.mpr ⟨network, redirected⟩⟩ <;>
          simp only [List.length_cons, List.length_append] <;> omega
      obtain ⟨option, hoption⟩ := read_of_fits hfits
      obtain ⟨n, hn⟩ : ∃ n, units.toNat = n + 1 := ⟨units.toNat - 1, by omega⟩
      have hrest : (kind :: units :: (content ++ rest)).drop (8 * (n + 1)) = rest := by
        rw [← hn, ← size, List.drop_succ_cons, List.drop_succ_cons, List.drop_left]
      rw [hn] at hoption
      refine ⟨option.toList ++ found, ?_⟩
      rw [readAll, hoption]
      simp only [hrest, hfound]
      rfl

theorem readAll_of_not {octets : Bytes} (h : ¬OptionSequence octets) :
    readAll octets = .error .unsuited := by
  fun_induction readAll octets with
  | case1 => exact absurd nil h
  | case2 first more refusal hread =>
      rcases read_cases (first :: more) with ⟨_, _, _, _, -, -, hok⟩ | hrefused
      · rw [hread] at hok
        cases hok
      · rw [hread] at hrefused
        exact congrArg _ (Except.error.inj hrefused)
  | case3 => rfl
  | case4 first more option units hread ih =>
      rcases read_cases (first :: more) with ⟨kind, size, rest, _, hsplit, hfits, hok⟩ | hrefused
      · rw [hread] at hok
        have hsize : size.toNat = units + 1 :=
          (congrArg Prod.snd (Except.ok.inj hok)).symm
        rw [hsplit] at h hfits ih
        rw [← hsize] at ih
        have hmore : ¬OptionSequence ((kind :: size :: rest).drop (8 * size.toNat)) :=
          fun hsequence => h (of_drop hfits (by omega) hsequence)
        rw [hsplit, ← hsize, ih hmore]
        rfl
      · rw [hread] at hrefused
        cases hrefused

end OptionSequence

namespace DiscoveryPacket

open Ipv6Packet (declaredSize)

/-- A solicitation or an advertisement inside an IPv6 packet: the message ends where the declared
payload ends, whatever follows. -/
structure Fits (packet : Bytes) : Prop where
  header : 40 ≤ packet.length
  payload : 40 + declaredSize packet ≤ packet.length
  nextHeader : packet[6]? = some 58
  least : 24 ≤ declaredSize packet
  kind : packet[40]? = some 135 ∨ packet[40]? = some 136
  options : OptionSequence (packet.slice 64 (40 + declaredSize packet))

structure Layout (packet : Bytes) (message : Discovery) : Prop where
  direction : message.direction = if packet[40]? = some 135 then .request else .reply
  source : message.source.bytes = packet.slice 8 24
  destination : message.destination.bytes = packet.slice 24 40
  target : message.target.bytes = packet.slice 48 64

theorem Layout.unique {packet : Bytes} {left right : Discovery} (hl : Layout packet left)
    (hr : Layout packet right) : left = right := by
  cases left; cases right
  rw [Discovery.mk.injEq]
  exact ⟨hl.direction.trans hr.direction.symm, Octets.ext (hl.source.trans hr.source.symm),
    Octets.ext (hl.destination.trans hr.destination.symm),
    Octets.ext (hl.target.trans hr.target.symm)⟩

theorem direction?_eq (kind : UInt8) :
    direction? kind =
      if kind = 135 ∨ kind = 136 then some (if kind = 135 then .request else .reply) else none := by
  unfold direction? solicitation advertisement
  by_cases hrequest : kind = 135
  · simp [hrequest]
  · simp [hrequest]

theorem window_options {payload : Bytes} (h : leastSize ≤ payload.length) :
    payload.window leastSize payload.length = .ok (payload.drop 24) := by
  rw [window_of_le h (Nat.le_refl _), slice_to_length]
  rfl

/-- Reading the message of an IPv6 packet, in terms of the message alone. -/
theorem decides_ofPayload (content : Ipv6Packet) :
    (ofPayload content).Decides
      (content.nextHeader = 58 ∧ 24 ≤ content.payload.length ∧
        (content.payload[0]? = some 135 ∨ content.payload[0]? = some 136) ∧
        OptionSequence (content.payload.drop 24))
      (fun message =>
        message.direction = (if content.payload[0]? = some 135 then .request else .reply) ∧
          message.source = content.source ∧ message.destination = content.destination ∧
          message.target.bytes = content.payload.slice 8 24) where
  accepts := by
    rintro ⟨hnext, hleast, hkind, hoptions⟩
    obtain ⟨kind, hkind'⟩ : ∃ kind, content.payload[0]? = some kind :=
      ⟨_, List.getElem?_eq_getElem (by omega)⟩
    obtain ⟨target, htarget, htarget'⟩ := exists_octetsAt 16 8
      (show 8 + 16 ≤ content.payload.length by omega)
    obtain ⟨options, hread⟩ := hoptions.exists_readAll
    rw [hkind', Option.some.injEq, Option.some.injEq] at hkind
    refine ⟨⟨if kind = 135 then .request else .reply, content.source, content.destination, target⟩,
      ?_, ?_, rfl, rfl, htarget'⟩
    · have hnext' : ¬content.nextHeader ≠ Ipv6Packet.icmp := fun hne => hne hnext
      have hleast' : ¬content.payload.length < leastSize := Nat.not_lt_of_le hleast
      rw [ofPayload, if_neg hnext', if_neg hleast', octetAt_eq_ok_iff.mpr hkind',
        Access.ok_bind, direction?_eq, if_pos hkind]
      simp only [htarget, window_options hleast, hread, Access.ok_bind]
      rfl
    · rw [hkind']
      simp
  refuses := by
    intro hnot
    unfold ofPayload
    by_cases hnext : content.nextHeader ≠ Ipv6Packet.icmp
    · rw [if_pos hnext]
    by_cases hleast : content.payload.length < leastSize
    · rw [if_neg hnext, if_pos hleast]
    obtain ⟨kind, hkind⟩ : ∃ kind, content.payload[0]? = some kind :=
      ⟨_, List.getElem?_eq_getElem (by unfold leastSize at hleast; omega)⟩
    rw [if_neg hnext, if_neg hleast, octetAt_eq_ok_iff.mpr hkind, Access.ok_bind, direction?_eq]
    by_cases hkind' : kind = 135 ∨ kind = 136
    · have hoptions : ¬OptionSequence (content.payload.drop 24) := fun hsequence =>
        hnot ⟨of_not_not hnext, Nat.le_of_not_lt hleast, by rwa [hkind, Option.some.injEq,
          Option.some.injEq], hsequence⟩
      obtain ⟨target, htarget, -⟩ := exists_octetsAt 16 8
        (show 8 + 16 ≤ content.payload.length by unfold leastSize at hleast; omega)
      rw [if_pos hkind']
      simp only [htarget, window_options (Nat.le_of_not_lt hleast),
        OptionSequence.readAll_of_not hoptions, Access.ok_bind, Access.error_bind]
    · rw [if_neg hkind']
  unique := by
    rintro ⟨d, s, e, t⟩ ⟨d', s', e', t'⟩ ⟨hd, hs, he, ht⟩ ⟨hd', hs', he', ht'⟩
    rw [Discovery.mk.injEq]
    exact ⟨hd.trans hd'.symm, hs.trans hs'.symm, he.trans he'.symm, Octets.ext (ht.trans ht'.symm)⟩

/-- What the message is inside a packet that fits, in terms of the whole packet. -/
theorem decides_ofPayload_of_layout {packet : Bytes} {content : Ipv6Packet}
    (hfits : Ipv6Packet.Fits packet) (hcontent : Ipv6Packet.Layout packet content) :
    (ofPayload content).Decides
      (packet[6]? = some 58 ∧ 24 ≤ declaredSize packet ∧
        (packet[40]? = some 135 ∨ packet[40]? = some 136) ∧
        OptionSequence (packet.slice 64 (40 + declaredSize packet)))
      (Layout packet) := by
  have hlength : content.payload.length = declaredSize packet := by
    rw [hcontent.payload, length_slice hfits.payload, Nat.add_sub_cancel_left]
  have hnext : content.nextHeader = 58 ↔ packet[6]? = some 58 := by
    rw [hcontent.nextHeader, Option.some.injEq]
  have hkind : 24 ≤ declaredSize packet → content.payload[0]? = packet[40]? := by
    intro hleast
    rw [hcontent.payload, getElem?_slice (by omega)]
  have hoptions : content.payload.drop 24 = packet.slice 64 (40 + declaredSize packet) := by
    rw [← slice_to_length, hlength, hcontent.payload, slice_slice (Nat.le_refl _)]
  have htarget : 24 ≤ declaredSize packet → content.payload.slice 8 24 = packet.slice 48 64 := by
    intro hleast
    rw [hcontent.payload, slice_slice (by omega)]
  refine (decides_ofPayload content).congr ?_ ?_ Layout.unique
  · rw [hlength, hoptions, hnext]
    refine and_congr_right fun _ => and_congr_right fun hleast => ?_
    rw [hkind hleast]
  · rintro message ⟨-, hleast, -, -⟩
    rw [hlength] at hleast
    rw [hkind hleast, htarget hleast]
    constructor
    · rintro ⟨direction, source, destination, target⟩
      exact ⟨direction, by rw [source, hcontent.source], by rw [destination, hcontent.destination],
        target⟩
    · rintro ⟨direction, source, destination, target⟩
      exact ⟨direction, Octets.ext (source.trans hcontent.source.symm),
        Octets.ext (destination.trans hcontent.destination.symm), target⟩

theorem decides_read (packet : Bytes) : (read packet).Decides (Fits packet) (Layout packet) := by
  have hbind := (Ipv6Packet.decides_read packet).bind
    (fun _ hfits hcontent => decides_ofPayload_of_layout hfits hcontent) Layout.unique
  refine hbind.congr ?_ (fun _ _ => Iff.rfl) Layout.unique
  constructor
  · rintro ⟨⟨header, payload⟩, nextHeader, least, kind, options⟩
    exact ⟨header, payload, nextHeader, least, kind, options⟩
  · rintro ⟨header, payload, nextHeader, least, kind, options⟩
    exact ⟨⟨header, payload⟩, nextHeader, least, kind, options⟩

end DiscoveryPacket

end Neighbours.Frame
