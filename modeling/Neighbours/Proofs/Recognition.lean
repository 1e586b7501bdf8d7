import Neighbours.Arrival.Recognition
import Neighbours.Proofs.Frame.Discovery
import Neighbours.Proofs.Frame.Tagging

/-! Which frames are recognised as neighbour messages, and what is read off them. Both are stated of
the octets of the frame alone: the positions are those in the frame without its outermost tag, and
the readers of the single packets do not occur. -/

open Neighbours.Bytes Neighbours.Frame

namespace Neighbours

namespace Frame

/-- An untagged frame with an ARP packet for IPv4 over Ethernet. -/
structure ArpFrame (frame : Bytes) : Prop where
  kind : frame.slice 12 14 = [0x08, 0x06]
  length : 42 ≤ frame.length
  header : frame.slice 14 20 = [0x00, 0x01, 0x08, 0x00, 0x06, 0x04]

structure ArpFrame.Layout (frame : Bytes) (packet : Arp) : Prop where
  direction : packet.direction = if frame.slice 20 22 = [0x00, 0x01] then .request else .reply
  senderMac : packet.senderMac.bytes = frame.slice 22 28
  senderIp : packet.senderIp.bytes = frame.slice 28 32
  targetMac : packet.targetMac.bytes = frame.slice 32 38
  targetIp : packet.targetIp.bytes = frame.slice 38 42

/-- The payload length that the IPv6 header of an untagged frame declares. -/
def payloadSize (frame : Bytes) : Nat :=
  number (frame.slice 18 20)

/-- An untagged frame with a neighbour solicitation or advertisement. -/
structure DiscoveryFrame (frame : Bytes) : Prop where
  kind : frame.slice 12 14 = [0x86, 0xdd]
  length : 54 ≤ frame.length
  nextHeader : frame[20]? = some 58
  least : 24 ≤ payloadSize frame
  most : payloadSize frame ≤ frame.length - 54
  message : frame[54]? = some 135 ∨ frame[54]? = some 136
  options : OptionSequence (frame.slice 78 (54 + payloadSize frame))

structure DiscoveryFrame.Layout (frame : Bytes) (packet : Discovery) : Prop where
  direction : packet.direction = if frame[54]? = some 135 then .request else .reply
  source : packet.source.bytes = frame.slice 22 38
  destination : packet.destination.bytes = frame.slice 38 54
  target : packet.target.bytes = frame.slice 62 78

theorem arpFrame_iff {frame : Bytes} (h : 14 ≤ frame.length) :
    ArpFrame frame ↔ frame.slice 12 14 = [0x08, 0x06] ∧ ArpPacket.Fits (frame.drop 14) := by
  have hheader : slice (frame.drop 14) 0 6 = frame.slice 14 20 := slice_drop frame 14 0 6
  constructor
  · rintro ⟨kind, length, header⟩
    refine ⟨kind, ?_, hheader.trans header⟩
    rw [List.length_drop]
    omega
  · rintro ⟨kind, length, header⟩
    rw [List.length_drop] at length
    exact ⟨kind, by omega, hheader.symm.trans header⟩

theorem arpFrame_layout_iff {frame : Bytes} {packet : Arp} :
    ArpFrame.Layout frame packet ↔ ArpPacket.Layout (frame.drop 14) packet := by
  constructor
  · rintro ⟨direction, senderMac, senderIp, targetMac, targetIp⟩
    constructor <;> rwa [slice_drop]
  · rintro ⟨direction, senderMac, senderIp, targetMac, targetIp⟩
    rw [slice_drop] at direction senderMac senderIp targetMac targetIp
    exact ⟨direction, senderMac, senderIp, targetMac, targetIp⟩

theorem declaredSize_drop (frame : Bytes) :
    Ipv6Packet.declaredSize (frame.drop 14) = payloadSize frame := by
  rw [Ipv6Packet.declaredSize, slice_drop]
  rfl

theorem discoveryFrame_iff {frame : Bytes} (h : 14 ≤ frame.length) :
    DiscoveryFrame frame ↔
      frame.slice 12 14 = [0x86, 0xdd] ∧ DiscoveryPacket.Fits (frame.drop 14) := by
  have hoptions : slice (frame.drop 14) 64 (40 + payloadSize frame) =
      frame.slice 78 (54 + payloadSize frame) := by
    rw [slice_drop, ← Nat.add_assoc]
  constructor
  · rintro ⟨kind, length, nextHeader, least, most, message, options⟩
    refine ⟨kind, ?_, ?_, ?_, ?_, ?_, ?_⟩
    · rw [List.length_drop]
      omega
    · rw [declaredSize_drop, List.length_drop]
      omega
    · rwa [List.getElem?_drop]
    · rwa [declaredSize_drop]
    · rwa [List.getElem?_drop]
    · rwa [declaredSize_drop, hoptions]
  · rintro ⟨kind, length, payload, nextHeader, least, message, options⟩
    rw [List.length_drop] at length
    rw [declaredSize_drop, List.length_drop] at payload
    rw [List.getElem?_drop] at nextHeader message
    rw [declaredSize_drop] at least
    rw [declaredSize_drop, hoptions] at options
    exact ⟨kind, by omega, nextHeader, least, by omega, message, options⟩

theorem discoveryFrame_layout_iff {frame : Bytes} {packet : Discovery} :
    DiscoveryFrame.Layout frame packet ↔ DiscoveryPacket.Layout (frame.drop 14) packet := by
  constructor
  · rintro ⟨direction, source, destination, target⟩
    refine ⟨?_, ?_, ?_, ?_⟩
    · rwa [List.getElem?_drop]
    · rwa [slice_drop]
    · rwa [slice_drop]
    · rwa [slice_drop]
  · rintro ⟨direction, source, destination, target⟩
    rw [List.getElem?_drop] at direction
    rw [slice_drop] at source destination target
    exact ⟨direction, source, destination, target⟩

/-- The two kinds of frame exclude each other. -/
theorem ArpFrame.not_discoveryFrame {frame : Bytes} (h : ArpFrame frame) :
    ¬DiscoveryFrame frame := by
  intro hdiscovery
  have hkind : ([0x08, 0x06] : Bytes) = [0x86, 0xdd] := h.kind.symm.trans hdiscovery.kind
  exact absurd hkind (by decide)

end Frame

namespace Arrival

/-- What a message is in the untagged frame that carries it. -/
def MessageLayout (frame : Bytes) : Message → Prop
  | .arp packet => ArpFrame frame ∧ ArpFrame.Layout frame packet
  | .discovery packet => DiscoveryFrame frame ∧ DiscoveryFrame.Layout frame packet

theorem MessageLayout.unique {frame : Bytes} {left right : Message} (hl : MessageLayout frame left)
    (hr : MessageLayout frame right) : left = right := by
  cases left with
  | arp packet =>
      cases right with
      | arp packet' =>
          rw [(arpFrame_layout_iff.mp hl.2).unique (arpFrame_layout_iff.mp hr.2)]
      | discovery packet' => exact absurd hr.1 hl.1.not_discoveryFrame
  | discovery packet =>
      cases right with
      | arp packet' => exact absurd hl.1 hr.1.not_discoveryFrame
      | discovery packet' =>
          rw [(discoveryFrame_layout_iff.mp hl.2).unique (discoveryFrame_layout_iff.mp hr.2)]

theorem decides_arp {frame : Bytes} (hlength : 14 ≤ frame.length)
    (hkind : frame.slice 12 14 = [0x08, 0x06]) :
    Access.Decides ((ArpPacket.read (frame.drop 14)).map Message.arp)
      (ArpFrame frame ∨ DiscoveryFrame frame) (MessageLayout frame) := by
  have hframe : ArpPacket.Fits (frame.drop 14) ↔ ArpFrame frame := by
    rw [arpFrame_iff hlength, and_iff_right hkind]
  apply ((ArpPacket.decides_read (frame.drop 14)).map Message.arp).congr
  · rw [hframe]
    refine ⟨Or.inl, fun h => h.resolve_right ?_⟩
    intro hdiscovery
    have hkinds : ([0x08, 0x06] : Bytes) = [0x86, 0xdd] := hkind.symm.trans hdiscovery.kind
    exact absurd hkinds (by decide)
  · intro message hfits
    constructor
    · rintro ⟨packet, hpacket, rfl⟩
      exact ⟨hframe.mp hfits, arpFrame_layout_iff.mpr hpacket⟩
    · intro hmessage
      cases message with
      | arp packet => exact ⟨packet, arpFrame_layout_iff.mp hmessage.2, rfl⟩
      | discovery packet => exact absurd hmessage.1 (hframe.mp hfits).not_discoveryFrame
  · exact MessageLayout.unique

theorem decides_discovery {frame : Bytes} (hlength : 14 ≤ frame.length)
    (hkind : frame.slice 12 14 = [0x86, 0xdd]) :
    Access.Decides ((DiscoveryPacket.read (frame.drop 14)).map Message.discovery)
      (ArpFrame frame ∨ DiscoveryFrame frame) (MessageLayout frame) := by
  have hframe : DiscoveryPacket.Fits (frame.drop 14) ↔ DiscoveryFrame frame := by
    rw [discoveryFrame_iff hlength, and_iff_right hkind]
  apply ((DiscoveryPacket.decides_read (frame.drop 14)).map Message.discovery).congr
  · rw [hframe]
    refine ⟨Or.inr, fun h => h.resolve_left ?_⟩
    intro harp
    have hkinds : ([0x08, 0x06] : Bytes) = [0x86, 0xdd] := harp.kind.symm.trans hkind
    exact absurd hkinds (by decide)
  · intro message hfits
    constructor
    · rintro ⟨packet, hpacket, rfl⟩
      exact ⟨hframe.mp hfits, discoveryFrame_layout_iff.mpr hpacket⟩
    · intro hmessage
      cases message with
      | arp packet => exact absurd (hframe.mp hfits) hmessage.1.not_discoveryFrame
      | discovery packet => exact ⟨packet, discoveryFrame_layout_iff.mp hmessage.2, rfl⟩
  · exact MessageLayout.unique

/-- The message of an untagged frame is read from what follows its kind. -/
theorem decides_messageOf {frame : Bytes} {ethernet : Ethernet} (hlength : 14 ≤ frame.length)
    (hlayout : Ethernet.Layout frame ethernet) :
    (messageOf ethernet).Decides (ArpFrame frame ∨ DiscoveryFrame frame) (MessageLayout frame) := by
  have harp : ethernet.kind = Ethernet.arpKind ↔ frame.slice 12 14 = [0x08, 0x06] := by
    rw [hlayout.kind]
    exact number_slice_eq_word_iff 0x08 0x06 hlength
  have hipv6 : ethernet.kind = Ethernet.ipv6Kind ↔ frame.slice 12 14 = [0x86, 0xdd] := by
    rw [hlayout.kind]
    exact number_slice_eq_word_iff 0x86 0xdd hlength
  rw [messageOf, hlayout.payload]
  by_cases hkind : ethernet.kind = Ethernet.arpKind
  · rw [if_pos hkind]
    exact decides_arp hlength (harp.mp hkind)
  rw [if_neg hkind]
  by_cases hkind' : ethernet.kind = Ethernet.ipv6Kind
  · rw [if_pos hkind']
    exact decides_discovery hlength (hipv6.mp hkind')
  · rw [if_neg hkind']
    refine ⟨?_, fun _ => rfl, MessageLayout.unique⟩
    rintro (hframe | hframe)
    · exact absurd (harp.mpr hframe.kind) hkind
    · exact absurd (hipv6.mpr hframe.kind) hkind'

/-- A frame of a neighbour message, tagged or not. -/
structure Recognisable (frame : Bytes) : Prop where
  hasKind : HasKind frame
  message : ArpFrame (enclosed frame) ∨ DiscoveryFrame (enclosed frame)

structure Layout (frame : Bytes) (point : Point) (arrival : Arrival) : Prop where
  destination : arrival.destination.bytes = (enclosed frame).slice 0 6
  source : arrival.source.bytes = (enclosed frame).slice 6 12
  vlan : arrival.vlan = tagVlan frame
  message : MessageLayout (enclosed frame) arrival.message
  point : arrival.point = point
  frame : arrival.frame = frame

theorem Layout.unique {frame : Bytes} {point : Point} {left right : Arrival}
    (hl : Layout frame point left) (hr : Layout frame point right) : left = right := by
  cases left; cases right
  rw [mk.injEq]
  exact ⟨hl.point.trans hr.point.symm, Octets.ext (hl.source.trans hr.source.symm),
    Octets.ext (hl.destination.trans hr.destination.symm), hl.vlan.trans hr.vlan.symm,
    hl.message.unique hr.message, hl.frame.trans hr.frame.symm⟩

theorem decides_recognise (frame : Bytes) (point : Point) :
    (recognise frame point).Decides (Recognisable frame) (Layout frame point) := by
  have hstages : (recognise frame point).Decides
      (HasKind frame ∧ 14 ≤ (enclosed frame).length ∧
        (ArpFrame (enclosed frame) ∨ DiscoveryFrame (enclosed frame)) ∧ True)
      (Layout frame point) := by
    refine (decides_splitTag frame).bind (fun untagged _ huntagged => ?_) Layout.unique
    subst huntagged
    refine (Ethernet.decides_read _).bind (fun ethernet hlength hethernet => ?_) Layout.unique
    refine (decides_messageOf hlength hethernet).bind (fun message _ hmessage => ?_) Layout.unique
    exact .of_ok ⟨hethernet.destination, hethernet.source, rfl, hmessage, rfl, rfl⟩ Layout.unique
  refine hstages.congr ⟨?_, ?_⟩ (fun _ _ => Iff.rfl) Layout.unique
  · rintro ⟨hkind, -, hmessage, -⟩
    exact ⟨hkind, hmessage⟩
  · rintro ⟨hkind, hmessage⟩
    exact ⟨hkind, length_enclosed hkind, hmessage, trivial⟩

theorem ofFrame?_eq_some_iff {frame : Bytes} {point : Point} {arrival : Arrival} :
    ofFrame? frame point = some arrival ↔ Recognisable frame ∧ Layout frame point arrival := by
  rw [ofFrame?, Access.toOption_eq_some_iff, (decides_recognise frame point).eq_ok_iff]

theorem exists_ofFrame?_iff {frame : Bytes} {point : Point} :
    (∃ arrival, ofFrame? frame point = some arrival) ↔ Recognisable frame := by
  constructor
  · rintro ⟨arrival, harrival⟩
    exact (ofFrame?_eq_some_iff.mp harrival).1
  · intro hframe
    obtain ⟨arrival, hread, -⟩ := (decides_recognise frame point).accepts hframe
    exact ⟨arrival, Access.toOption_eq_some_iff.mpr hread⟩

/-- The identifier in a tag is that of its control word, where this is not reserved. -/
theorem map_id_tagVlan (frame : Bytes) :
    (tagVlan frame).map Vlan.id =
      if Tagged frame ∧ 1 ≤ controlWord frame % 4096 ∧ controlWord frame % 4096 ≤ 4094 then
        some (controlWord frame % 4096)
      else none := by
  unfold tagVlan Vlan.ofControlWord? Vlan.ofId?
  by_cases htagged : Tagged frame
  · by_cases hid : 0 < controlWord frame % 4096 ∧ controlWord frame % 4096 ≤ 4094
    · rw [if_pos htagged, dif_pos hid, if_pos ⟨htagged, hid⟩]
      rfl
    · rw [if_pos htagged, dif_neg hid, if_neg (fun h => hid h.2)]
      rfl
  · rw [if_neg htagged, if_neg (fun h => htagged h.1)]
    rfl

/-- The recognised frames are those that carry an ARP packet or a discovery message, possibly behind
a tag, and every field of the arrival is found at its position in the frame. -/
theorem recognised_iff_and_layout (frame : Bytes) (point : Point) :
    ((∃ arrival, ofFrame? frame point = some arrival) ↔
        HasKind frame ∧ (ArpFrame (enclosed frame) ∨ DiscoveryFrame (enclosed frame))) ∧
      ∀ arrival, ofFrame? frame point = some arrival →
        arrival.destination.bytes = (enclosed frame).slice 0 6 ∧
        arrival.source.bytes = (enclosed frame).slice 6 12 ∧
        arrival.point = point ∧
        arrival.frame = frame ∧
        arrival.vlan.map Vlan.id =
          (if Tagged frame ∧ 1 ≤ controlWord frame % 4096 ∧ controlWord frame % 4096 ≤ 4094 then
            some (controlWord frame % 4096)
          else none) ∧
        MessageLayout (enclosed frame) arrival.message := by
  constructor
  · rw [exists_ofFrame?_iff]
    exact ⟨fun h => ⟨h.hasKind, h.message⟩, fun h => ⟨h.1, h.2⟩⟩
  · intro arrival harrival
    have hlayout := (ofFrame?_eq_some_iff.mp harrival).2
    refine ⟨hlayout.destination, hlayout.source, hlayout.point, hlayout.frame, ?_, hlayout.message⟩
    rw [hlayout.vlan, map_id_tagVlan]

end Arrival

end Neighbours
