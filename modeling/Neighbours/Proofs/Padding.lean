import Neighbours.Proofs.Recognition

/-! Octets behind a message. Short frames are padded on their way, and a receiver may hand over more
octets than a message has. Whatever follows a message in its frame does not change it: the lengths that
its headers declare decide where it ends, not the buffer that it is found in. -/

open Neighbours.Bytes Neighbours.Frame

namespace Neighbours

namespace Frame

variable {frame : Bytes} (padding : Bytes)

theorem tagged_append (h : 14 ≤ frame.length) : Tagged (frame ++ padding) ↔ Tagged frame := by
  rw [Tagged, Tagged, slice_append_left h]

theorem controlWord_append (h : 16 ≤ frame.length) :
    controlWord (frame ++ padding) = controlWord frame := by
  rw [controlWord, controlWord, slice_append_left h]

theorem HasKind.append (h : HasKind frame) : HasKind (frame ++ padding) := by
  have hheader := h.header
  refine ⟨?_, fun htagged => ?_⟩
  · rw [List.length_append]
    omega
  · have htag := h.tag ((tagged_append padding hheader).mp htagged)
    rw [List.length_append]
    omega

theorem enclosed_append (h : HasKind frame) :
    enclosed (frame ++ padding) = enclosed frame ++ padding := by
  have hheader := h.header
  by_cases htagged : Tagged frame
  · have htag := h.tag htagged
    rw [enclosed, enclosed, if_pos ((tagged_append padding hheader).mpr htagged), if_pos htagged,
      slice_append_left (by omega), List.drop_append_of_le_length (by omega), List.append_assoc]
  · rw [enclosed, enclosed, if_neg (mt (tagged_append padding hheader).mp htagged), if_neg htagged]

theorem tagVlan_append (h : HasKind frame) : tagVlan (frame ++ padding) = tagVlan frame := by
  have hheader := h.header
  by_cases htagged : Tagged frame
  · have htag := h.tag htagged
    rw [tagVlan, tagVlan, if_pos ((tagged_append padding hheader).mpr htagged), if_pos htagged,
      controlWord_append padding (by omega)]
  · rw [tagVlan, tagVlan, if_neg (mt (tagged_append padding hheader).mp htagged), if_neg htagged]

/-- An ARP packet has a fixed length. -/
theorem ArpFrame.append (h : ArpFrame frame) : ArpFrame (frame ++ padding) := by
  have hlength := h.length
  refine ⟨?_, ?_, ?_⟩
  · rw [slice_append_left (by omega), h.kind]
  · rw [List.length_append]
    omega
  · rw [slice_append_left (by omega), h.header]

theorem ArpFrame.Layout.append {packet : Arp} (h : ArpFrame frame) (hlayout : Layout frame packet) :
    Layout (frame ++ padding) packet := by
  have hlength := h.length
  obtain ⟨direction, senderMac, senderIp, targetMac, targetIp⟩ := hlayout
  constructor <;> rwa [slice_append_left (by omega)]

/-- A discovery message ends where the header of its packet says, and so do its options. -/
theorem DiscoveryFrame.append (h : DiscoveryFrame frame) : DiscoveryFrame (frame ++ padding) := by
  have hlength := h.length
  have hleast := h.least
  have hmost := h.most
  have hsize : payloadSize (frame ++ padding) = payloadSize frame := by
    rw [payloadSize, payloadSize, slice_append_left (by omega)]
  refine ⟨?_, ?_, ?_, ?_, ?_, ?_, ?_⟩
  · rw [slice_append_left (by omega), h.kind]
  · rw [List.length_append]
    omega
  · rw [List.getElem?_append_left (by omega), h.nextHeader]
  · rwa [hsize]
  · rw [hsize, List.length_append]
    omega
  · rw [List.getElem?_append_left (by omega)]
    exact h.message
  · rw [hsize, slice_append_left (by omega)]
    exact h.options

theorem DiscoveryFrame.Layout.append {packet : Discovery} (h : DiscoveryFrame frame)
    (hlayout : Layout frame packet) : Layout (frame ++ padding) packet := by
  have hlength := h.length
  have hleast := h.least
  have hmost := h.most
  obtain ⟨direction, source, destination, target⟩ := hlayout
  refine ⟨?_, ?_, ?_, ?_⟩
  · rwa [List.getElem?_append_left (by omega)]
  all_goals rwa [slice_append_left (by omega)]

end Frame

namespace Arrival

section Behind

variable {frame : Bytes} {point : Point} {arrival : Arrival} (padding : Bytes)

theorem MessageLayout.append {message : Message} (h : MessageLayout frame message) :
    MessageLayout (frame ++ padding) message := by
  cases message with
  | arp packet => exact ⟨h.1.append padding, h.2.append padding h.1⟩
  | discovery packet => exact ⟨h.1.append padding, h.2.append padding h.1⟩

theorem Recognisable.append (h : Recognisable frame) : Recognisable (frame ++ padding) := by
  refine ⟨h.hasKind.append padding, ?_⟩
  rw [enclosed_append padding h.hasKind]
  exact h.message.imp (ArpFrame.append padding) (DiscoveryFrame.append padding)

/-- What an arrival says of a frame holds of the padded frame, but that this is what was received. -/
theorem Layout.append (h : Recognisable frame) (hlayout : Layout frame point arrival) :
    Layout (frame ++ padding) point { arrival with frame := frame ++ padding } := by
  have hlength := length_enclosed h.hasKind
  have henclosed := enclosed_append padding h.hasKind
  constructor
  case destination => rw [henclosed, slice_append_left (by omega), hlayout.destination]
  case source => rw [henclosed, slice_append_left (by omega), hlayout.source]
  case vlan => rw [tagVlan_append padding h.hasKind, hlayout.vlan]
  case message =>
    rw [henclosed]
    exact hlayout.message.append padding
  case point => exact hlayout.point
  case frame => rfl

/-- A message stays recognised, and the same in all that is read off it, whatever octets follow it. -/
theorem recognised_despite_padding (h : ofFrame? frame point = some arrival) :
    ofFrame? (frame ++ padding) point = some { arrival with frame := frame ++ padding } := by
  obtain ⟨hframe, hlayout⟩ := ofFrame?_eq_some_iff.mp h
  exact ofFrame?_eq_some_iff.mpr ⟨hframe.append padding, hlayout.append padding hframe⟩

end Behind

/-! A solicitation behind a tag, with one option. What follows it could not be read as another one. -/

namespace Solicited

def entry : Point := ⟨"leaf", 1⟩

def asker : Mac := Octets.replicate 6 2

def group : Mac := Octets.replicate 6 0x33

def packet : Discovery :=
  ⟨.request, Octets.replicate 16 1, Octets.replicate 16 3, Octets.replicate 16 4⟩

def solicitation : Bytes :=
  group.bytes ++ asker.bytes ++ [0x81, 0x00, 0x60, 0x42, 0x86, 0xdd] ++
    [0x60, 0, 0, 0, 0, 32, 58, 255] ++ packet.source.bytes ++ packet.destination.bytes ++
    [135, 0, 0xab, 0xcd, 0, 0, 0, 0] ++ packet.target.bytes ++ [1, 1] ++ asker.bytes

def arrival : Arrival :=
  ⟨entry, asker, group, some ⟨66, by decide, by decide⟩, .discovery packet, solicitation⟩

def padding : Bytes := [1, 0, 0, 0]

theorem recognised_solicitation :
    ofFrame? solicitation entry = some arrival ∧
      ofFrame? (solicitation ++ padding) entry =
        some { arrival with frame := solicitation ++ padding } := by
  have harrival : ofFrame? solicitation entry = some arrival := by decide +kernel
  exact ⟨harrival, recognised_despite_padding padding harrival⟩

end Solicited

end Arrival

end Neighbours
