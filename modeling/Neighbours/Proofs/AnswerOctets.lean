import Neighbours.Proofs.AnswerChecksum

/-! Answers octet by octet. An answer is written field by field by several writers, and whoever receives
it checks few of the fields. Here it is spelled out as one octet string, and the checksum in it is
verified as a receiver would do it, from the octets alone. -/

open Neighbours.Bytes Neighbours.Frame

namespace Neighbours

/-- What a message asks: the address that it is about and the address of the host that sent it. -/
inductive Question where
  | arp (target asker : Ipv4)
  | discovery (target asker : Ipv6)
deriving DecidableEq

def Message.question : Message → Question
  | .arp packet => .arp packet.targetIp packet.senderIp
  | .discovery packet => .discovery packet.target packet.source

namespace Arrival

/-- The identifier stands in the low twelve bits of the control word, under a priority of zero. -/
def tagOctets : Option Vlan → Bytes
  | none => []
  | some vlan => [0x81, 0x00] ++ ofWord vlan.id

/-- The complement of the sum over the addresses, the size and the protocol of the advertisement, and the
advertisement with zero in the place of its checksum. -/
def announcementChecksum (target asker : Ipv6) (mac : Mac) : Nat :=
  0xffff - Checksum.sum (target.bytes ++ asker.bytes ++ [0, 0, 0, 0x20, 0, 0, 0, 0x3a] ++
    ([0x88, 0, 0, 0, 0x60, 0, 0, 0] ++ target.bytes ++ [0x02, 0x01] ++ mac.bytes))

/-- The octets of an answer from the frame kind on. -/
def announcement (receiver mac : Mac) : Question → Bytes
  | .arp target asker =>
      [0x08, 0x06, 0x00, 0x01, 0x08, 0x00, 0x06, 0x04, 0x00, 0x02] ++ mac.bytes ++ target.bytes ++
        receiver.bytes ++ asker.bytes
  | .discovery target asker =>
      [0x86, 0xdd, 0x60, 0x00, 0x00, 0x00, 0x00, 0x20, 0x3a, 0xff] ++ target.bytes ++ asker.bytes ++
        [0x88, 0x00] ++ ofWord (announcementChecksum target asker mac) ++ [0x60, 0x00, 0x00, 0x00] ++
        target.bytes ++ [0x02, 0x01] ++ mac.bytes

end Arrival

namespace Frame

/-- The checksum that is written is the one spelled out. -/
theorem DiscoveryPacket.checksum_eq_announcementChecksum (target asker : Ipv6) (mac : Mac) :
    checksum target asker (messageOctets target mac 0) =
      Arrival.announcementChecksum target asker mac := by
  have hpseudo : Ipv6Packet.pseudoHeader target asker 32 Ipv6Packet.icmp =
      target.bytes ++ asker.bytes ++ [0, 0, 0, 0x20, 0, 0, 0, 0x3a] := by
    simp only [Ipv6Packet.pseudoHeader, List.append_assoc]
    rfl
  have hmessage : messageOctets target mac 0 =
      [0x88, 0, 0, 0, 0x60, 0, 0, 0] ++ target.bytes ++ [0x02, 0x01] ++ mac.bytes := by
    simp only [messageOctets, List.append_assoc]
    rfl
  rw [checksum_messageOctets, hpseudo, hmessage]
  rfl

/-- A tag is put behind the two hardware addresses. -/
theorem withTag_append {front : Bytes} (h : front.length = 12) (back : Bytes) (vlan : Vlan) :
    withTag (front ++ back) vlan = front ++ ([0x81, 0x00] ++ ofWord vlan.id ++ back) := by
  have haddresses : (front ++ back).slice 0 12 = front := by
    rw [slice_append_left (Nat.le_of_eq h.symm), slice_of_length_eq h]
  rw [withTag, haddresses, List.drop_left' h]

end Frame

namespace Arrival

theorem octets_answerEthernet (arrival : Arrival) (mac : Mac) :
    (answerEthernet arrival mac).octets =
      arrival.source.bytes ++ mac.bytes ++
        announcement arrival.source mac arrival.message.question := by
  unfold answerEthernet
  cases arrival.message with
  | arp packet =>
      simp only [Ethernet.octets, ArpPacket.octets, Message.question, announcement,
        List.append_assoc]
      rfl
  | discovery packet =>
      simp only [Ethernet.octets, DiscoveryPacket.octets, Ipv6Packet.octets, Ipv6Packet.head,
        DiscoveryPacket.length_messageOctets, DiscoveryPacket.checksum_eq_announcementChecksum]
      simp only [DiscoveryPacket.messageOctets, DiscoveryPacket.head, Message.question, announcement,
        List.append_assoc]
      rfl

theorem answer_eq_append (arrival : Arrival) (mac : Mac) :
    arrival.answer mac =
      arrival.source.bytes ++ mac.bytes ++ tagOctets arrival.vlan ++
        announcement arrival.source mac arrival.message.question := by
  have haddresses : (arrival.source.bytes ++ mac.bytes).length = 12 := by
    rw [List.length_append, Octets.length_eq, Octets.length_eq]
  rw [answer_eq, octets_answerEthernet]
  cases arrival.vlan with
  | none => rw [tagOctets, List.append_nil]
  | some vlan =>
      rw [List.append_assoc (arrival.source.bytes ++ mac.bytes)]
      exact withTag_append haddresses _ vlan

theorem length_tagOctets (vlan : Option Vlan) :
    (tagOctets vlan).length = if vlan.isSome then 4 else 0 := by
  cases vlan <;> rfl

theorem length_announcement (receiver mac : Mac) (message : Message) :
    (announcement receiver mac message.question).length =
      match message with
        | .arp _ => 30
        | .discovery _ => 74 := by
  cases message <;> simp [Message.question, announcement]

/-- An answer is spelled out: its receiver, its sender, a tag if the message came with one, and the
announcement. So it depends on nothing else of the arrival: not on the frame that came, where it came in,
to whom it was sent, whether it was a request, nor on the other addresses in the message. -/
theorem answer_octet_by_octet (arrival : Arrival) (mac : Mac) :
    arrival.answer mac =
        arrival.source.bytes ++ mac.bytes ++ tagOctets arrival.vlan ++
          announcement arrival.source mac arrival.message.question ∧
      (arrival.answer mac).length =
        (match arrival.message with
          | .arp _ => 42
          | .discovery _ => 86) + (if arrival.vlan.isSome then 4 else 0) ∧
      ∀ other : Arrival, other.source = arrival.source → other.vlan = arrival.vlan →
        other.message.question = arrival.message.question → other.answer mac = arrival.answer mac := by
  refine ⟨answer_eq_append arrival mac, ?_, ?_⟩
  · rw [answer_eq_append, List.length_append, List.length_append, List.length_append,
      Octets.length_eq, Octets.length_eq, length_tagOctets, length_announcement]
    cases arrival.message with
    | arp packet => exact Nat.add_right_comm 12 _ 30
    | discovery packet => exact Nat.add_right_comm 12 _ 74
  · intro other hsource hvlan hquestion
    rw [answer_eq_append, answer_eq_append, hsource, hvlan, hquestion]

/-! A request and a reply on one VLAN that concern the same two addresses. They come in at different points,
the reply is sent to one host only, and all that its hardware addresses and its frame have in common with
those of the request is who sent it. -/

namespace SameQuestion

def vlan : Vlan := ⟨291, by decide, by decide⟩

def target : Ipv4 := Octets.replicate 4 1

def asker : Ipv4 := Octets.replicate 4 2

def host : Mac := Octets.replicate 6 3

def router : Mac := Octets.replicate 6 4

def request : Arrival :=
  ⟨⟨"leaf", 1⟩, host, .broadcast, some vlan, .arp ⟨.request, host, asker, .zero, target⟩, [1]⟩

def reply : Arrival :=
  ⟨⟨"spine", 2⟩, host, router, some vlan, .arp ⟨.reply, .zero, asker, router, target⟩, [2]⟩

theorem answer_reply_eq :
    reply.message.question = request.message.question ∧
      reply.answer router = request.answer router ∧
      request.answer router =
        List.replicate 6 3 ++ List.replicate 6 4 ++ [0x81, 0x00, 0x01, 0x23] ++
          ([0x08, 0x06, 0x00, 0x01, 0x08, 0x00, 0x06, 0x04, 0x00, 0x02] ++ List.replicate 6 4 ++
            List.replicate 4 1 ++ List.replicate 6 3 ++ List.replicate 4 2) := by
  obtain ⟨hoctets, -, hsame⟩ := answer_octet_by_octet request router
  exact ⟨rfl, hsame reply rfl rfl rfl, hoctets⟩

end SameQuestion

end Arrival

end Neighbours
