import Neighbours.Proofs.Answer
import Neighbours.Proofs.Frame.OnesComplement

/-! The checksum of an advertisement, as its receiver verifies it. The writer sums a message in which the
checksum is still zero; the receiver reads addresses, size and protocol off the header of the packet that
has arrived and sums them with the whole message. That both agree is a matter of carries. -/

open Neighbours.Bytes Neighbours.Frame

namespace Neighbours

namespace Frame

namespace Ipv6Packet

/-- What a checksum covers besides the payload, read off a packet: the two addresses, and the size of the
payload with the protocol, each in thirty-two bits. -/
def coveredParts (packet : Bytes) : List Bytes :=
  [packet.slice 8 24, packet.slice 24 40,
    [0, 0] ++ packet.slice 4 6 ++ ([0, 0, 0] ++ packet.slice 6 7)]

theorem slice_octets {packet : Ipv6Packet} {start stop : Nat} (h : stop ≤ 8) :
    (octets packet).slice start stop = (head packet).slice start stop := by
  rw [octets, slice_append_left (by rwa [length_head])]

theorem coveredParts_octets {packet : Ipv6Packet} (h : packet.payload.length < 65536) :
    coveredParts (octets packet) =
      [packet.source.bytes, packet.destination.bytes,
        [0, 0] ++ ofWord packet.payload.length ++ [0, 0, 0, packet.nextHeader]] := by
  have hlayout := layout_octets h
  rw [coveredParts, ← hlayout.source, ← hlayout.destination, slice_octets (by omega),
    slice_octets (by omega)]
  rfl

theorem drop_octets (packet : Ipv6Packet) : (octets packet).drop 40 = packet.payload := by
  rw [octets, ← List.append_assoc, ← List.append_assoc]
  apply List.drop_left'
  simp

end Ipv6Packet

namespace DiscoveryPacket

/-- An advertisement behind its checksum. -/
def tail (target : Ipv6) (mac : Mac) : Bytes :=
  [solicitedOverride, 0, 0, 0] ++ (target.bytes ++ ([2, 1] ++ mac.bytes))

theorem messageOctets_eq (target : Ipv6) (mac : Mac) (checksum : Nat) :
    messageOctets target mac checksum =
      [advertisement, 0] ++ (ofWord checksum ++ tail target mac) := by
  simp only [messageOctets, head, tail, List.append_assoc]

theorem slice_messageOctets (target : Ipv6) (mac : Mac) (checksum : Nat) :
    (messageOctets target mac checksum).slice 2 4 = ofWord checksum := rfl

/-- With zero put in its place, the checksum is as it was before it was written. -/
theorem messageOctets_zero (target : Ipv6) (mac : Mac) (checksum : Nat) :
    (messageOctets target mac checksum).slice 0 2 ++
      ([0, 0] ++ (messageOctets target mac checksum).drop 4) = messageOctets target mac 0 := rfl

theorem checksum_messageOctets (target receiver : Ipv6) (mac : Mac) (value : Nat) :
    checksum target receiver (messageOctets target mac value) =
      Checksum.complement (Checksum.sum
        (Ipv6Packet.pseudoHeader target receiver 32 Ipv6Packet.icmp ++
          messageOctets target mac value)) := by
  rw [checksum, length_messageOctets]

/-- The pseudo header has an even number of octets, so that it tears no word of the message. -/
theorem sum_messageOctets (target receiver : Ipv6) (mac : Mac) :
    Checksum.sum (Ipv6Packet.pseudoHeader target receiver 32 Ipv6Packet.icmp ++
      messageOctets target mac (checksum target receiver (messageOctets target mac 0))) = 65535 := by
  let front := Ipv6Packet.pseudoHeader target receiver 32 Ipv6Packet.icmp ++ [advertisement, 0]
  have heven : front.length % 2 = 0 := by
    simp [front, Ipv6Packet.pseudoHeader]
  have hcovered : ∀ value, Ipv6Packet.pseudoHeader target receiver 32 Ipv6Packet.icmp ++
      messageOctets target mac value = front ++ (ofWord value ++ tail target mac) := by
    intro value
    rw [messageOctets_eq, ← List.append_assoc]
  rw [checksum_messageOctets, hcovered, hcovered]
  exact Checksum.sum_with_complement heven (tail target mac)

theorem checksum_lt (target receiver : Ipv6) (message : Bytes) :
    checksum target receiver message < 65536 :=
  Nat.lt_succ_of_le (Nat.sub_le _ _)

theorem isPart_messageOctets (target : Ipv6) (mac : Mac) (value : Nat) :
    Checksum.IsPart (messageOctets target mac value) := by
  constructor <;> simp [length_messageOctets]

variable (target receiver : Ipv6) (mac : Mac)

theorem slice_octets :
    (octets target receiver mac).slice 4 7 = ofWord 32 ++ [Ipv6Packet.icmp] := by
  rw [octets, Ipv6Packet.slice_octets (by decide), Ipv6Packet.head, length_messageOctets]
  rfl

theorem drop_octets :
    (octets target receiver mac).drop 40 =
      messageOctets target mac (checksum target receiver (messageOctets target mac 0)) :=
  Ipv6Packet.drop_octets _

theorem coveredParts_octets :
    Ipv6Packet.coveredParts (octets target receiver mac) =
      [target.bytes, receiver.bytes, [0, 0] ++ ofWord 32 ++ [0, 0, 0, Ipv6Packet.icmp]] := by
  have hsize := length_messageOctets target mac
    (checksum target receiver (messageOctets target mac 0))
  rw [octets, Ipv6Packet.coveredParts_octets (by rw [hsize]; decide), hsize]

theorem flatten_coveredParts_octets :
    (Ipv6Packet.coveredParts (octets target receiver mac)).flatten =
      Ipv6Packet.pseudoHeader target receiver 32 Ipv6Packet.icmp := by
  rw [coveredParts_octets, Ipv6Packet.pseudoHeader]
  simp only [List.flatten_cons, List.flatten_nil, List.append_nil, List.append_assoc]

/-- The two addresses and the eight octets behind them may be summed apart from each other and from the
message. -/
theorem deferred_coveredParts (value : Nat) :
    Checksum.deferred
        [Checksum.deferred ((Ipv6Packet.coveredParts (octets target receiver mac)).map
          fun part => Checksum.deferred (words part)),
        Checksum.deferred (words (messageOctets target mac value))] =
      Checksum.sum ((Ipv6Packet.coveredParts (octets target receiver mac)).flatten ++
        messageOctets target mac value) := by
  apply Checksum.deferred_nested
  · rw [coveredParts_octets]
    simp
  · intro part hpart
    rw [coveredParts_octets] at hpart
    simp only [List.mem_cons, List.not_mem_nil, or_false] at hpart
    rcases hpart with rfl | rfl | rfl <;> constructor <;> simp
  · rw [flatten_coveredParts_octets, Ipv6Packet.pseudoHeader]
    constructor <;> simp
  · exact isPart_messageOctets target mac value

end DiscoveryPacket

end Frame

namespace Arrival

theorem drop_answer (arrival : Arrival) (mac : Mac) :
    (arrival.answer mac).drop (if arrival.vlan.isSome then 18 else 14) =
      (answerEthernet arrival mac).payload := by
  have hpayload := (Ethernet.layout_octets (kind_answerEthernet_lt arrival mac)).payload
  have hlength := Ethernet.length_octets (answerEthernet arrival mac)
  rw [answer_eq]
  cases arrival.vlan with
  | none => exact hpayload.symm
  | some vlan =>
      have htagged : (withTag (answerEthernet arrival mac).octets vlan).drop 16 =
          (answerEthernet arrival mac).octets.drop 12 := drop_withTag (by omega)
      show ((withTag (answerEthernet arrival mac).octets vlan).drop (16 + 2)) = _
      rw [← List.drop_drop, htagged, List.drop_drop]
      exact hpayload.symm

/-- The checksum of an advertisement verifies: with the addresses, the size and the protocol that stand in
the header of its packet, the words of the message add up to ones. The checksum itself is the complement of
the sum that a zero in its place gives, also when the parts are summed apart and the carries are added back
at the end. -/
theorem answer_checksum_valid (point : Point) (source destination : Mac) (vlan : Option Vlan)
    (discovery : Discovery) (frame : Bytes) (mac : Mac) :
    let answer := answer ⟨point, source, destination, vlan, .discovery discovery, frame⟩ mac
    let packet : Bytes := answer.drop (if vlan.isSome then 18 else 14)
    let covered := Ipv6Packet.coveredParts packet
    let message : Bytes := packet.drop 40
    let unsummed : Bytes := message.slice 0 2 ++ ([0, 0] ++ message.drop 4)
    let checksum := number (message.slice 2 4)
    let total := (words (covered.flatten ++ message)).sum
    packet.slice 4 7 = [0, 32, 58] ∧ message.length = 32 ∧
      Checksum.sum (covered.flatten ++ message) = 0xffff ∧
      (0 < total ∧ total % 0xffff = 0) ∧
      checksum = 0xffff - Checksum.sum (covered.flatten ++ unsummed) ∧
      checksum = 0xffff - Checksum.deferred
        [Checksum.deferred (covered.map fun part => Checksum.deferred (words part)),
          Checksum.deferred (words unsummed)] := by
  intro answer packet covered message unsummed checksum total
  let value := DiscoveryPacket.checksum discovery.target discovery.source
    (DiscoveryPacket.messageOctets discovery.target mac 0)
  have hpacket : packet = DiscoveryPacket.octets discovery.target discovery.source mac :=
    drop_answer ⟨point, source, destination, vlan, .discovery discovery, frame⟩ mac
  have hcovered : covered = Ipv6Packet.coveredParts
      (DiscoveryPacket.octets discovery.target discovery.source mac) :=
    congrArg Ipv6Packet.coveredParts hpacket
  have hpseudo : covered.flatten =
      Ipv6Packet.pseudoHeader discovery.target discovery.source 32 Ipv6Packet.icmp := by
    rw [hcovered, DiscoveryPacket.flatten_coveredParts_octets]
  have hmessage : message = DiscoveryPacket.messageOctets discovery.target mac value :=
    (congrArg (List.drop 40) hpacket).trans (DiscoveryPacket.drop_octets _ _ _)
  have hunsummed : unsummed = DiscoveryPacket.messageOctets discovery.target mac 0 := by
    show message.slice 0 2 ++ ([0, 0] ++ message.drop 4) = _
    rw [hmessage, DiscoveryPacket.messageOctets_zero]
  have hchecksum : checksum = value := by
    show number (message.slice 2 4) = value
    rw [hmessage, DiscoveryPacket.slice_messageOctets,
      number_ofWord (DiscoveryPacket.checksum_lt _ _ _)]
  have hsum : Checksum.sum (covered.flatten ++ message) = 0xffff := by
    rw [hpseudo, hmessage]
    exact DiscoveryPacket.sum_messageOctets discovery.target discovery.source mac
  have hcomplement : checksum = 0xffff - Checksum.sum (covered.flatten ++ unsummed) := by
    rw [hchecksum, hpseudo, hunsummed]
    exact DiscoveryPacket.checksum_messageOctets discovery.target discovery.source mac 0
  refine ⟨?_, ?_, hsum, ?_, hcomplement, ?_⟩
  · rw [hpacket, DiscoveryPacket.slice_octets]
    rfl
  · rw [hmessage, DiscoveryPacket.length_messageOctets]
  · rw [← Checksum.folded_eq_ones_iff, ← Checksum.sum_eq_folded, hsum]
  · rw [hcomplement, hunsummed, hcovered, DiscoveryPacket.deferred_coveredParts]

end Arrival

end Neighbours
