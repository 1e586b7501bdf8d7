import Neighbours.Proofs.Frame.Discovery
import Neighbours.Proofs.Frame.Encoding

/-! What the writers of packets write, octet by octet, and that the readers read it back. Every
writer sizes its buffer so that no part is written outside of it. -/

namespace Neighbours.Frame

open Bytes

namespace Ethernet

/-- An untagged frame. -/
def octets (ethernet : Ethernet) : Bytes :=
  ethernet.destination.bytes ++
    (ethernet.source.bytes ++ (ofWord ethernet.kind ++ ethernet.payload))

/-- The hardware addresses are written in reverse order, so the buffer is followed through the
single writes. -/
theorem write_eq (ethernet : Ethernet) : write ethernet = .ok (octets ethernet) := by
  obtain ⟨destination, source, kind, payload⟩ := ethernet
  have hbuffer : List.replicate (14 + payload.length) (0 : UInt8) =
      List.replicate 6 0 ++ (List.replicate 6 0 ++ List.replicate (2 + payload.length) 0) := by
    rw [List.replicate_append_replicate, List.replicate_append_replicate]
    congr 1
    omega
  have hrest : Contiguous (destination.bytes ++ source.bytes).length
      [(12, ofWord kind), (14, payload)]
      ((destination.bytes ++ source.bytes).length +
        (List.replicate (2 + payload.length) (0 : UInt8)).length) := by
    simp [Contiguous]
    omega
  calc write ⟨destination, source, kind, payload⟩
      = putAll (List.replicate 6 0 ++ (List.replicate 6 0 ++ List.replicate (2 + payload.length) 0))
          [(6, source.bytes), (0, destination.bytes), (12, ofWord kind), (14, payload)] := by
        rw [← hbuffer]
        rfl
    _ = putAll (List.replicate 6 0 ++ (source.bytes ++ List.replicate (2 + payload.length) 0))
          [(0, destination.bytes), (12, ofWord kind), (14, payload)] := by
        rw [putAll, put_of_length_eq List.length_replicate (by simp)]
        rfl
    _ = putAll ([] ++ (List.replicate 6 0 ++
            (source.bytes ++ List.replicate (2 + payload.length) 0)))
          [(0, destination.bytes), (12, ofWord kind), (14, payload)] := by
        rw [List.nil_append]
    _ = putAll (destination.bytes ++ source.bytes ++
            (List.replicate (2 + payload.length) 0 ++ []))
          [(12, ofWord kind), (14, payload)] := by
        rw [putAll, put_of_length_eq List.length_nil (by simp), List.append_nil, List.append_assoc]
        rfl
    _ = .ok (octets ⟨destination, source, kind, payload⟩) := by
        rw [putAll_of_contiguous hrest]
        simp [octets]

theorem length_octets (ethernet : Ethernet) :
    (octets ethernet).length = 14 + ethernet.payload.length := by
  simp only [octets, List.length_append, Octets.length_eq, length_ofWord]
  omega

theorem layout_octets {ethernet : Ethernet} (h : ethernet.kind < 65536) :
    Layout (octets ethernet) ethernet where
  destination := by
    simp [octets]
  source := by
    simp [octets]
  kind := by
    simp [octets, number_ofWord h]
  payload := by
    have hrest : 14 + ethernet.payload.length - 6 - 6 - 2 = ethernet.payload.length := by
      omega
    rw [← slice_to_length, length_octets]
    simp [octets, hrest]

theorem read_octets {ethernet : Ethernet} (h : ethernet.kind < 65536) :
    read (octets ethernet) = .ok ethernet := by
  refine (decides_read _).eq_ok_iff.mpr ⟨?_, layout_octets h⟩
  rw [length_octets]
  exact Nat.le_add_right _ _

end Ethernet

namespace ArpPacket

@[simp]
theorem length_header : header.length = 6 := by
  simp [header]

/-- A packet for IPv4 over Ethernet. -/
def octets (arp : Arp) : Bytes :=
  header ++ (ofWord (operation arp.direction) ++ (arp.senderMac.bytes ++ (arp.senderIp.bytes ++
    (arp.targetMac.bytes ++ arp.targetIp.bytes))))

theorem write_eq (arp : Arp) : write arp = .ok (octets arp) := by
  rw [write, filled_of_contiguous (by simp [Contiguous])]
  simp only [List.flatMap_cons, List.flatMap_nil, List.append_nil]
  rfl

theorem fits_octets (arp : Arp) : Fits (octets arp) where
  length := by
    simp [octets]
  header := by
    simp [octets]

theorem layout_octets (arp : Arp) : Layout (octets arp) arp where
  direction := by
    have hoperation : (octets arp).slice 6 8 = ofWord (operation arp.direction) := by
      simp [octets]
    rw [hoperation]
    cases arp.direction <;> rfl
  senderMac := by
    simp [octets]
  senderIp := by
    simp [octets]
  targetMac := by
    simp [octets]
  targetIp := by
    simp [octets]

theorem read_octets (arp : Arp) : read (octets arp) = .ok arp :=
  (decides_read _).eq_ok_iff.mpr ⟨fits_octets arp, layout_octets arp⟩

end ArpPacket

namespace Ipv6Packet

/-- The octets before the addresses; traffic class and flow label are zero. -/
def head (packet : Ipv6Packet) : Bytes :=
  [0x60, 0, 0, 0] ++ (ofWord packet.payload.length ++ [packet.nextHeader, packet.hopLimit])

@[simp]
theorem length_head (packet : Ipv6Packet) : (head packet).length = 8 := by
  simp [head]

def octets (packet : Ipv6Packet) : Bytes :=
  head packet ++ (packet.source.bytes ++ (packet.destination.bytes ++ packet.payload))

theorem write_eq (packet : Ipv6Packet) : write packet = .ok (octets packet) := by
  rw [write, filled_of_contiguous (by simp [Contiguous, Nat.add_comm])]
  simp only [List.flatMap_cons, List.flatMap_nil, List.append_nil]
  rfl

theorem declaredSize_octets {packet : Ipv6Packet} (h : packet.payload.length < 65536) :
    declaredSize (octets packet) = packet.payload.length := by
  have hsize : (octets packet).slice 4 6 = ofWord packet.payload.length := by
    rw [octets, slice_append_left (by simp)]
    rfl
  rw [declaredSize, hsize, number_ofWord h]

theorem length_octets (packet : Ipv6Packet) :
    (octets packet).length = 40 + packet.payload.length := by
  simp only [octets, List.length_append, length_head, Octets.length_eq]
  omega

theorem layout_octets {packet : Ipv6Packet} (h : packet.payload.length < 65536) :
    Layout (octets packet) packet where
  nextHeader := by
    rw [octets, List.getElem?_append_left (by simp)]
    rfl
  hopLimit := by
    rw [octets, List.getElem?_append_left (by simp)]
    rfl
  source := by
    simp [octets]
  destination := by
    simp [octets]
  payload := by
    have hrest : 40 + packet.payload.length - 8 - 16 - 16 = packet.payload.length := by
      omega
    rw [declaredSize_octets h]
    simp [octets, hrest]

theorem read_octets {packet : Ipv6Packet} (h : packet.payload.length < 65536) :
    read (octets packet) = .ok packet := by
  have hlength := length_octets packet
  refine (decides_read _).eq_ok_iff.mpr ⟨⟨by omega, ?_⟩, layout_octets h⟩
  exact Nat.le_of_eq (by rw [declaredSize_octets h, hlength])

end Ipv6Packet

namespace DiscoveryPacket

/-- The octets of an advertisement before its target. -/
def head (checksum : Nat) : Bytes :=
  [advertisement, 0] ++ (ofWord checksum ++ [solicitedOverride, 0, 0, 0])

@[simp]
theorem length_head (checksum : Nat) : (head checksum).length = 8 := by
  simp [head]

/-- An advertisement with the option that gives the hardware address of the target. -/
def messageOctets (target : Ipv6) (mac : Mac) (checksum : Nat) : Bytes :=
  head checksum ++ (target.bytes ++ ([2, 1] ++ mac.bytes))

/-- The checksum is written last, into the gap that the other writes leave. -/
theorem message_eq (target : Ipv6) (mac : Mac) (checksum : Nat) :
    message target mac checksum = .ok (messageOctets target mac checksum) := by
  have hrest : Contiguous (head 0).length
      [(8, target.bytes), (24, [2]), (25, [1]), (26, mac.bytes)]
      ((head 0).length + (List.replicate 24 (0 : UInt8)).length) := by
    simp [Contiguous]
  calc message target mac checksum
      = putAll (head 0 ++ (List.replicate 24 0 ++ []))
          ([(8, target.bytes), (24, [2]), (25, [1]), (26, mac.bytes)] ++
            [(2, ofWord checksum)]) := rfl
    _ = putAll ([advertisement, 0] ++ (ofWord 0 ++ ([solicitedOverride, 0, 0, 0] ++
          (target.bytes ++ ([2, 1] ++ mac.bytes))))) [(2, ofWord checksum)] := by
        rw [putAll_append, putAll_of_contiguous hrest]
        simp only [List.flatMap_cons, List.flatMap_nil, List.append_nil]
        rfl
    _ = .ok (messageOctets target mac checksum) := by
        have hstart : ([advertisement, 0] : Bytes).length = 2 := rfl
        rw [putAll, put_of_length_eq hstart (by simp)]
        rfl

theorem length_messageOctets (target : Ipv6) (mac : Mac) (checksum : Nat) :
    (messageOctets target mac checksum).length = 32 := by
  simp [messageOctets]

/-- The packet that carries an advertisement. -/
def octets (target receiver : Ipv6) (mac : Mac) : Bytes :=
  Ipv6Packet.octets ⟨target, receiver, Ipv6Packet.icmp, 255,
    messageOctets target mac (checksum target receiver (messageOctets target mac 0))⟩

theorem write_eq (target receiver : Ipv6) (mac : Mac) :
    write target receiver mac = .ok (octets target receiver mac) := by
  rw [write, message_eq, Access.ok_bind, message_eq, Access.ok_bind, Ipv6Packet.write_eq]
  rfl

/-- The hardware address of the target fills one option. -/
theorem optionSequence_mac (mac : Mac) : OptionSequence ([2, 1] ++ mac.bytes) := by
  have hsize : mac.bytes.length + 2 = 8 * (1 : UInt8).toNat := by
    rw [mac.length_bytes]
    rfl
  have hsequence : OptionSequence (2 :: 1 :: (mac.bytes ++ [])) :=
    .cons (by decide) hsize (fun h => absurd h (by decide)) (fun h => absurd h (by decide)) .nil
  rwa [List.append_nil] at hsequence

theorem ofPayload_messageOctets (source destination target : Ipv6) (hopLimit : UInt8) (mac : Mac)
    (checksum : Nat) :
    ofPayload ⟨source, destination, Ipv6Packet.icmp, hopLimit,
        messageOctets target mac checksum⟩ =
      .ok ⟨.reply, source, destination, target⟩ := by
  have hkind : (messageOctets target mac checksum)[0]? = some 136 := rfl
  have hoptions : (messageOctets target mac checksum).drop 24 = [2, 1] ++ mac.bytes := by
    simp [messageOctets, List.drop_append]
  refine (decides_ofPayload _).eq_ok_iff.mpr ⟨⟨rfl, ?_, Or.inr hkind, ?_⟩, ?_, rfl, rfl, ?_⟩
  · rw [length_messageOctets]
    decide
  · rw [hoptions]
    exact optionSequence_mac mac
  · rw [hkind]
    rfl
  · simp [messageOctets]

theorem read_octets (target receiver : Ipv6) (mac : Mac) :
    read (octets target receiver mac) = .ok ⟨.reply, target, receiver, target⟩ := by
  have hlength : ∀ checksum, (messageOctets target mac checksum).length < 65536 := by
    intro checksum
    rw [length_messageOctets]
    decide
  rw [read, octets, Ipv6Packet.read_octets (hlength _), Access.ok_bind, ofPayload_messageOctets]

end DiscoveryPacket

end Neighbours.Frame
