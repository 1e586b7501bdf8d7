import Neighbours.Proofs.Frame.Decoding

/-! Encoding of octet strings. An encoder fills a buffer part by part. Parts that follow each other
without a gap leave their concatenation in the buffer and everything around them as it was, so an
encoder is described by the octet string that it writes. -/

namespace Neighbours.Bytes

/-- Parts that follow each other from position `start` up to position `stop`. -/
def Contiguous : Nat → List (Nat × Bytes) → Nat → Prop
  | start, [], stop => start = stop
  | start, (position, content) :: rest, stop =>
      position = start ∧ Contiguous (start + content.length) rest stop

theorem Contiguous.le {start stop : Nat} {parts : List (Nat × Bytes)}
    (h : Contiguous start parts stop) : start ≤ stop := by
  induction parts generalizing start with
  | nil => exact Nat.le_of_eq h
  | cons part rest ih => exact Nat.le_trans (Nat.le_add_right _ _) (ih h.2)

theorem put_of_length_le {front old back content : Bytes} (h : content.length ≤ old.length) :
    put (front ++ (old ++ back)) front.length content =
      .ok (front ++ (content ++ (old.drop content.length ++ back))) := by
  have hfits : front.length + content.length ≤ (front ++ (old ++ back)).length := by
    simp only [List.length_append]
    omega
  have hrest : (front ++ (old ++ back)).drop (front.length + content.length) =
      old.drop content.length ++ back := by
    rw [← List.drop_drop, List.drop_left, List.drop_append_of_le_length h]
  rw [put, if_pos hfits, List.take_left, hrest, List.append_assoc]

theorem put_of_length_eq {front old back content : Bytes} {start : Nat}
    (hstart : front.length = start) (h : content.length = old.length) :
    put (front ++ (old ++ back)) start content = .ok (front ++ (content ++ back)) := by
  rw [← hstart, put_of_length_le (Nat.le_of_eq h), List.drop_eq_nil_of_le (Nat.le_of_eq h.symm),
    List.nil_append]

/-- Contiguous parts replace exactly what stood in their place. -/
theorem putAll_of_contiguous {parts : List (Nat × Bytes)} {front old back : Bytes}
    (h : Contiguous front.length parts (front.length + old.length)) :
    putAll (front ++ (old ++ back)) parts = .ok (front ++ (parts.flatMap Prod.snd ++ back)) := by
  induction parts generalizing front old with
  | nil =>
      have hempty : old = [] := List.eq_nil_of_length_eq_zero (Nat.add_eq_left.mp h.symm)
      rw [hempty]
      rfl
  | cons part rest ih =>
      obtain ⟨position, content⟩ := part
      obtain ⟨rfl, hrest⟩ := h
      have hlength : content.length ≤ old.length := Nat.add_le_add_iff_left.mp hrest.le
      have hold : (front ++ content).length + (old.drop content.length).length =
          front.length + old.length := by
        rw [List.length_append, List.length_drop]
        omega
      rw [← hold, ← List.length_append] at hrest
      rw [putAll, put_of_length_le hlength, ← List.append_assoc front]
      exact (ih hrest).trans (by rw [List.flatMap_cons, List.append_assoc, List.append_assoc])

theorem putAll_append (bytes : Bytes) (first second : List (Nat × Bytes)) :
    putAll bytes (first ++ second) =
      (putAll bytes first).bind fun written => putAll written second := by
  induction first generalizing bytes with
  | nil => rfl
  | cons part rest ih =>
      obtain ⟨position, content⟩ := part
      rw [List.cons_append, putAll, putAll]
      cases put bytes position content with
      | error refusal => rfl
      | ok written => exact ih written

/-- A buffer that is written from its start to its end holds what was written. -/
theorem filled_of_contiguous {size : Nat} {parts : List (Nat × Bytes)}
    (h : Contiguous 0 parts size) : filled size parts = .ok (parts.flatMap Prod.snd) := by
  have hsize : Contiguous ([] : Bytes).length parts
      (([] : Bytes).length + (List.replicate size (0 : UInt8)).length) := by
    rwa [List.length_replicate, List.length_nil, Nat.zero_add]
  have hput : putAll ([] ++ (List.replicate size 0 ++ [])) parts =
      .ok ([] ++ (parts.flatMap Prod.snd ++ [])) := putAll_of_contiguous hsize
  rwa [List.append_nil, List.append_nil, List.nil_append, List.nil_append] at hput

end Neighbours.Bytes
