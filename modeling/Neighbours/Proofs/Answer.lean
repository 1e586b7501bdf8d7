import Neighbours.Arrival.Answer
import Neighbours.Arrival.Recognition
import Neighbours.Proofs.Frame.Tagging
import Neighbours.Proofs.Frame.Writing

/-! Answers are recognised. The frame that answers a message is itself a neighbour message: it goes
back on the VLAN it came from, to the hardware address it came from, and announces the address that
the message was about. -/

open Neighbours.Bytes Neighbours.Frame

namespace Neighbours

/-- The message that answers a message from the hardware address `asker`. -/
def Message.answer (message : Message) (asker mac : Mac) : Message :=
  match message with
  | .arp packet =>
      .arp
        { direction := .reply
          senderMac := mac
          senderIp := packet.targetIp
          targetMac := asker
          targetIp := packet.senderIp }
  | .discovery packet =>
      .discovery
        { direction := .reply
          source := packet.target
          destination := packet.source
          target := packet.target }

theorem Frame.splitTag_octets {ethernet : Ethernet} (h : ethernet.kind < 65536)
    (hkind : ethernet.kind ≠ tagKind) : splitTag ethernet.octets = .ok ⟨none, ethernet.octets⟩ := by
  have hlength := Ethernet.length_octets ethernet
  have huntagged : ¬Tagged ethernet.octets := by
    rw [← number_kind_eq_tagKind_iff (by omega), ← (Ethernet.layout_octets h).kind]
    exact hkind
  rw [splitTag_of_hasKind ⟨by omega, fun htagged => absurd htagged huntagged⟩, tagVlan,
    if_neg huntagged, enclosed, if_neg huntagged]

namespace Arrival

/-- The answer before it is tagged. -/
def answerEthernet (arrival : Arrival) (mac : Mac) : Ethernet :=
  match arrival.message with
  | .arp packet =>
      ⟨arrival.source, mac, Ethernet.arpKind,
        ArpPacket.octets ⟨.reply, mac, packet.targetIp, arrival.source, packet.senderIp⟩⟩
  | .discovery packet =>
      ⟨arrival.source, mac, Ethernet.ipv6Kind,
        DiscoveryPacket.octets packet.target packet.source mac⟩

variable (arrival : Arrival) (mac : Mac)

@[simp]
theorem destination_answerEthernet : (answerEthernet arrival mac).destination = arrival.source := by
  unfold answerEthernet
  split <;> rfl

@[simp]
theorem source_answerEthernet : (answerEthernet arrival mac).source = mac := by
  unfold answerEthernet
  split <;> rfl

theorem kind_answerEthernet :
    (answerEthernet arrival mac).kind = Ethernet.arpKind ∨
      (answerEthernet arrival mac).kind = Ethernet.ipv6Kind := by
  unfold answerEthernet
  split
  · exact Or.inl rfl
  · exact Or.inr rfl

theorem kind_answerEthernet_lt : (answerEthernet arrival mac).kind < 65536 := by
  rcases kind_answerEthernet arrival mac with hkind | hkind <;> rw [hkind] <;> decide

theorem kind_answerEthernet_ne : (answerEthernet arrival mac).kind ≠ tagKind := by
  rcases kind_answerEthernet arrival mac with hkind | hkind <;> rw [hkind] <;> decide

theorem untaggedAnswer_eq :
    untaggedAnswer arrival mac = .ok (answerEthernet arrival mac).octets := by
  unfold untaggedAnswer answerEthernet
  cases arrival.message with
  | arp packet => simp only [ArpPacket.write_eq, Access.ok_bind, Ethernet.write_eq]
  | discovery packet => simp only [DiscoveryPacket.write_eq, Access.ok_bind, Ethernet.write_eq]

theorem messageOf_answerEthernet :
    messageOf (answerEthernet arrival mac) = .ok (arrival.message.answer arrival.source mac) := by
  unfold answerEthernet
  cases arrival.message with
  | arp packet =>
      rw [messageOf, if_pos rfl, ArpPacket.read_octets]
      rfl
  | discovery packet =>
      have hkind : Ethernet.ipv6Kind ≠ Ethernet.arpKind := by decide
      rw [messageOf, if_neg hkind, if_pos rfl, DiscoveryPacket.read_octets]
      rfl

/-- The answer carries a tag exactly if the message came with one, and its identifier. -/
theorem answer_eq :
    arrival.answer mac =
      match arrival.vlan with
      | none => (answerEthernet arrival mac).octets
      | some vlan => withTag (answerEthernet arrival mac).octets vlan := by
  have hlength : 12 ≤ (answerEthernet arrival mac).octets.length := by
    rw [Ethernet.length_octets]
    omega
  rw [answer, buildAnswer, untaggedAnswer_eq, Access.ok_bind]
  cases arrival.vlan with
  | none => rfl
  | some vlan =>
      have hsplit := splitTag_octets (kind_answerEthernet_lt arrival mac)
        (kind_answerEthernet_ne arrival mac)
      have htagged : replaceTag (answerEthernet arrival mac).octets (some vlan) =
          .ok (withTag (answerEthernet arrival mac).octets vlan) := by
        rw [replaceTag, hsplit]
        exact insertTag_eq hlength
      simp only [htagged]
      rfl

theorem splitTag_answer :
    splitTag (arrival.answer mac) = .ok ⟨arrival.vlan, (answerEthernet arrival mac).octets⟩ := by
  have hlength := Ethernet.length_octets (answerEthernet arrival mac)
  rw [answer_eq]
  cases arrival.vlan with
  | none =>
      exact splitTag_octets (kind_answerEthernet_lt arrival mac)
        (kind_answerEthernet_ne arrival mac)
  | some vlan => exact splitTag_withTag (by omega)

/-- Whoever receives the answer recognises it, as the announcement of the target of the message. -/
theorem answer_recognised (point : Point) :
    ofFrame? (arrival.answer mac) point =
      some
        { point := point
          source := mac
          destination := arrival.source
          vlan := arrival.vlan
          message := arrival.message.answer arrival.source mac
          frame := arrival.answer mac } := by
  have hread := Ethernet.read_octets (kind_answerEthernet_lt arrival mac)
  rw [ofFrame?, recognise, splitTag_answer, Access.ok_bind, hread, Access.ok_bind,
    messageOf_answerEthernet, Access.ok_bind, source_answerEthernet, destination_answerEthernet]
  rfl

end Arrival

end Neighbours
