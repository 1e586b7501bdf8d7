import Mathlib.Tactic.ByContra
import Neighbours.Frame.ArpPacket
import Neighbours.Frame.Ethernet
import Neighbours.Frame.Ipv6Packet
import Neighbours.Proofs.Frame.Decoding

/-! What the fixed parts of packets look like to their readers. For each kind of packet it is stated
which octet strings fit it and where its fields lie. A reader accepts what fits, yields the fields
from their places and refuses everything else without leaving the buffer. -/

namespace Neighbours.Frame

open Bytes

namespace Ethernet

structure Layout (frame : Bytes) (ethernet : Ethernet) : Prop where
  destination : ethernet.destination.bytes = frame.slice 0 6
  source : ethernet.source.bytes = frame.slice 6 12
  kind : ethernet.kind = number (frame.slice 12 14)
  payload : ethernet.payload = frame.drop 14

theorem Layout.unique {frame : Bytes} {left right : Ethernet} (hl : Layout frame left)
    (hr : Layout frame right) : left = right := by
  cases left; cases right
  rw [mk.injEq]
  exact ⟨Octets.ext (hl.destination.trans hr.destination.symm),
    Octets.ext (hl.source.trans hr.source.symm), hl.kind.trans hr.kind.symm,
    hl.payload.trans hr.payload.symm⟩

theorem read_of_le {frame : Bytes} (h : 14 ≤ frame.length) :
    ∃ ethernet, read frame = .ok ethernet ∧ Layout frame ethernet := by
  obtain ⟨destination, hdestination, hdestination'⟩ := exists_octetsAt 6 0
    (show 0 + 6 ≤ frame.length by omega)
  obtain ⟨source, hsource, hsource'⟩ := exists_octetsAt 6 6 (show 6 + 6 ≤ frame.length by omega)
  have hkind : frame.wordAt 12 = .ok (number (frame.slice 12 14)) := wordAt_of_le (by omega)
  have hpayload : frame.window 14 frame.length = .ok (frame.drop 14) := by
    rw [window_of_le h (Nat.le_refl _), slice_to_length]
  refine ⟨⟨destination, source, number (frame.slice 12 14), frame.drop 14⟩, ?_,
    ⟨hdestination', hsource', rfl, rfl⟩⟩
  rw [read, if_neg (Nat.not_lt_of_le h), hdestination, Access.ok_bind, hsource, Access.ok_bind,
    hkind, Access.ok_bind, hpayload]
  rfl

theorem decides_read (frame : Bytes) :
    (read frame).Decides (14 ≤ frame.length) (Layout frame) where
  accepts := read_of_le
  refuses h := if_pos (Nat.lt_of_not_le h)
  unique := Layout.unique

end Ethernet

namespace ArpPacket

/-- The header of a packet for IPv4 over Ethernet, up to the operation. -/
def header : Bytes := [0x00, 0x01, 0x08, 0x00, 0x06, 0x04]

structure Fits (packet : Bytes) : Prop where
  length : 28 ≤ packet.length
  header : packet.slice 0 6 = ArpPacket.header

structure Layout (packet : Bytes) (arp : Arp) : Prop where
  direction : arp.direction = if packet.slice 6 8 = [0x00, 0x01] then .request else .reply
  senderMac : arp.senderMac.bytes = packet.slice 8 14
  senderIp : arp.senderIp.bytes = packet.slice 14 18
  targetMac : arp.targetMac.bytes = packet.slice 18 24
  targetIp : arp.targetIp.bytes = packet.slice 24 28

theorem Layout.unique {packet : Bytes} {left right : Arp} (hl : Layout packet left)
    (hr : Layout packet right) : left = right := by
  cases left; cases right
  rw [Arp.mk.injEq]
  exact ⟨hl.direction.trans hr.direction.symm, Octets.ext (hl.senderMac.trans hr.senderMac.symm),
    Octets.ext (hl.senderIp.trans hr.senderIp.symm),
    Octets.ext (hl.targetMac.trans hr.targetMac.symm),
    Octets.ext (hl.targetIp.trans hr.targetIp.symm)⟩

/-- The header is the pair of protocols with the lengths of their addresses. -/
theorem slice_eq_header_iff {packet : Bytes} :
    packet.slice 0 6 = header ↔
      packet.slice 0 2 = [0x00, 0x01] ∧ packet.slice 2 4 = [0x08, 0x00] ∧
        packet[4]? = some 6 ∧ packet[5]? = some 4 := by
  have hnil : ∀ n, packet.slice n n = [] := fun n => slice_of_le (Nat.le_refl n)
  simp [header, slice_eq_cons_iff, hnil, and_assoc]

theorem read_of_fits {packet : Bytes} (h : Fits packet) :
    ∃ arp, read packet = .ok arp ∧ Layout packet arp := by
  have hlength := h.length
  obtain ⟨hmacKind, hipKind, hmac, hip⟩ := slice_eq_header_iff.mp h.header
  have hdeclared : ¬packet.length < 8 + 2 * ((6 : UInt8).toNat + (4 : UInt8).toNat) :=
    Nat.not_lt_of_le hlength
  have hmacKind' : packet.wordAt 0 = .ok 1 := by
    rw [wordAt_of_le (by omega), hmacKind]
    rfl
  have hipKind' : packet.wordAt 2 = .ok 0x0800 := by
    rw [wordAt_of_le (by omega), hipKind]
    rfl
  have hoperation : packet.wordAt 6 = .ok (number (packet.slice 6 8)) := wordAt_of_le (by omega)
  have hrequest : number (packet.slice 6 8) = 1 ↔ packet.slice 6 8 = [0x00, 0x01] :=
    number_slice_eq_word_iff 0x00 0x01 (by omega)
  obtain ⟨senderMac, hsenderMac, hsenderMac'⟩ := exists_octetsAt 6 8
    (show 8 + 6 ≤ packet.length by omega)
  obtain ⟨senderIp, hsenderIp, hsenderIp'⟩ := exists_octetsAt 4 14
    (show 14 + 4 ≤ packet.length by omega)
  obtain ⟨targetMac, htargetMac, htargetMac'⟩ := exists_octetsAt 6 18
    (show 18 + 6 ≤ packet.length by omega)
  obtain ⟨targetIp, htargetIp, htargetIp'⟩ := exists_octetsAt 4 24
    (show 24 + 4 ≤ packet.length by omega)
  refine ⟨⟨if packet.slice 6 8 = [0x00, 0x01] then .request else .reply, senderMac, senderIp,
    targetMac, targetIp⟩, ?_, ⟨rfl, hsenderMac', hsenderIp', htargetMac', htargetIp'⟩⟩
  rw [read, if_neg (by omega), octetAt_eq_ok_iff.mpr hmac, Access.ok_bind,
    octetAt_eq_ok_iff.mpr hip, Access.ok_bind, if_neg hdeclared, hmacKind', Access.ok_bind, hipKind',
    Access.ok_bind, if_neg (by decide), hoperation, Access.ok_bind, hsenderMac, Access.ok_bind,
    hsenderIp, Access.ok_bind, htargetMac, Access.ok_bind, htargetIp, Access.ok_bind]
  simp only [hrequest]
  rfl

theorem read_of_not_fits {packet : Bytes} (h : ¬Fits packet) : read packet = .error .unsuited := by
  unfold read
  by_cases hshort : packet.length < 8
  · rw [if_pos hshort]
  have hmac : packet[4]? = some packet[4] := List.getElem?_eq_getElem _
  have hip : packet[5]? = some packet[5] := List.getElem?_eq_getElem _
  rw [if_neg hshort, octetAt_eq_ok_iff.mpr hmac, Access.ok_bind, octetAt_eq_ok_iff.mpr hip,
    Access.ok_bind]
  by_cases hdeclared : packet.length < 8 + 2 * (packet[4].toNat + packet[5].toNat)
  · rw [if_pos hdeclared]
  have hmacKind : packet.wordAt 0 = .ok (number (packet.slice 0 2)) := wordAt_of_le (by omega)
  have hipKind : packet.wordAt 2 = .ok (number (packet.slice 2 4)) := wordAt_of_le (by omega)
  rw [if_neg hdeclared, hmacKind, Access.ok_bind, hipKind, Access.ok_bind, if_pos]
  -- A packet whose header is as it should be would be as long as the header declares.
  by_contra hagrees
  obtain ⟨hmacKind', hipKind', hmac', hip'⟩ : number (packet.slice 0 2) = 1 ∧
      number (packet.slice 2 4) = 0x0800 ∧ packet[4] = 6 ∧ packet[5] = 4 := by
    simpa only [Ne, not_or, not_not] using hagrees
  have hlength : 28 ≤ packet.length := by
    rw [hmac', hip'] at hdeclared
    exact Nat.le_of_not_lt hdeclared
  refine h ⟨hlength, slice_eq_header_iff.mpr ⟨?_, ?_, ?_, ?_⟩⟩
  · exact (number_slice_eq_word_iff 0x00 0x01 (by omega)).mp hmacKind'
  · exact (number_slice_eq_word_iff 0x08 0x00 (by omega)).mp hipKind'
  · rw [hmac, hmac']
  · rw [hip, hip']

theorem decides_read (packet : Bytes) : (read packet).Decides (Fits packet) (Layout packet) where
  accepts := read_of_fits
  refuses := read_of_not_fits
  unique := Layout.unique

end ArpPacket

namespace Ipv6Packet

/-- The length of the payload, as the header declares it. -/
def declaredSize (packet : Bytes) : Nat :=
  number (packet.slice 4 6)

structure Fits (packet : Bytes) : Prop where
  header : 40 ≤ packet.length
  payload : 40 + declaredSize packet ≤ packet.length

structure Layout (packet : Bytes) (content : Ipv6Packet) : Prop where
  nextHeader : packet[6]? = some content.nextHeader
  hopLimit : packet[7]? = some content.hopLimit
  source : content.source.bytes = packet.slice 8 24
  destination : content.destination.bytes = packet.slice 24 40
  payload : content.payload = packet.slice 40 (40 + declaredSize packet)

theorem Layout.unique {packet : Bytes} {left right : Ipv6Packet} (hl : Layout packet left)
    (hr : Layout packet right) : left = right := by
  cases left; cases right
  rw [mk.injEq]
  exact ⟨Octets.ext (hl.source.trans hr.source.symm),
    Octets.ext (hl.destination.trans hr.destination.symm),
    Option.some.inj (hl.nextHeader.symm.trans hr.nextHeader),
    Option.some.inj (hl.hopLimit.symm.trans hr.hopLimit), hl.payload.trans hr.payload.symm⟩

theorem read_of_fits {packet : Bytes} (h : Fits packet) :
    ∃ content, read packet = .ok content ∧ Layout packet content := by
  have hheader := h.header
  have hpayload := h.payload
  have hsize : packet.wordAt 4 = .ok (declaredSize packet) := wordAt_of_le (by omega)
  obtain ⟨source, hsource, hsource'⟩ := exists_octetsAt 16 8 (show 8 + 16 ≤ packet.length by omega)
  obtain ⟨destination, hdestination, hdestination'⟩ := exists_octetsAt 16 24
    (show 24 + 16 ≤ packet.length by omega)
  refine ⟨⟨source, destination, packet[6], packet[7],
    packet.slice 40 (40 + declaredSize packet)⟩, ?_,
    ⟨List.getElem?_eq_getElem _, List.getElem?_eq_getElem _, hsource', hdestination', rfl⟩⟩
  rw [read, if_neg (by omega), hsize, Access.ok_bind, if_neg (by omega), octetAt_of_lt (by omega),
    Access.ok_bind, octetAt_of_lt (by omega), Access.ok_bind, hsource, Access.ok_bind, hdestination,
    Access.ok_bind, window_of_le (by omega) (by omega)]
  rfl

theorem read_of_not_fits {packet : Bytes} (h : ¬Fits packet) : read packet = .error .unsuited := by
  unfold read
  by_cases hshort : packet.length < 40
  · rw [if_pos hshort]
  have hsize : packet.wordAt 4 = .ok (declaredSize packet) := wordAt_of_le (by omega)
  rw [if_neg hshort, hsize, Access.ok_bind, if_pos]
  by_contra hdeclared
  exact h ⟨Nat.le_of_not_lt hshort, Nat.le_of_not_lt hdeclared⟩

theorem decides_read (packet : Bytes) : (read packet).Decides (Fits packet) (Layout packet) where
  accepts := read_of_fits
  refuses := read_of_not_fits
  unique := Layout.unique

end Ipv6Packet

end Neighbours.Frame
