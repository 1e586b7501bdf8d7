import Neighbours.Frame.Access

/-! Decoding of octet strings. A decoder is described by what it accepts and by what the slices of an
accepted string have to do with the result. A read inside the buffer succeeds and yields the slice at
its position, so decoders that check lengths before they read are described completely in this way.
-/

namespace Neighbours

namespace Access

variable {α β : Type}

theorem toOption_eq_some_iff {access : Access α} {a : α} :
    access.toOption = some a ↔ access = .ok a := by
  cases access <;> simp [Except.toOption]

@[simp]
theorem ok_bind (a : α) (next : α → Access β) : (Except.ok a : Access α) >>= next = next a := rfl

@[simp]
theorem error_bind (refusal : Refusal) (next : α → Access β) :
    (Except.error refusal : Access α) >>= next = .error refusal := rfl

theorem ok_ne_outside (a : α) : (Except.ok a : Access α) ≠ .error .outside := by
  intro h
  cases h

theorem unsuited_ne_outside : (.error .unsuited : Access α) ≠ .error .outside := by
  intro h
  cases h

/-- A decoder accepts exactly what fits, with the one result that belongs to it, and refuses
everything else without having left the buffer. -/
structure Decides (access : Access α) (fits : Prop) (result : α → Prop) : Prop where
  accepts : fits → ∃ a, access = .ok a ∧ result a
  refuses : ¬fits → access = .error .unsuited
  unique : ∀ {a a' : α}, result a → result a' → a = a'

namespace Decides

variable {access : Access α} {fits : Prop} {result : α → Prop}

theorem eq_ok_iff (h : access.Decides fits result) {a : α} :
    access = .ok a ↔ fits ∧ result a := by
  by_cases hfits : fits
  · obtain ⟨found, haccess, hfound⟩ := h.accepts hfits
    rw [haccess, Except.ok.injEq]
    constructor
    · rintro rfl
      exact ⟨hfits, hfound⟩
    · rintro ⟨-, ha⟩
      exact h.unique hfound ha
  · rw [h.refuses hfits]
    constructor
    · intro heq
      cases heq
    · rintro ⟨hfits', -⟩
      exact absurd hfits' hfits

theorem ne_outside (h : access.Decides fits result) : access ≠ .error .outside := by
  by_cases hfits : fits
  · obtain ⟨found, haccess, -⟩ := h.accepts hfits
    rw [haccess]
    exact ok_ne_outside found
  · rw [h.refuses hfits]
    exact unsuited_ne_outside

/-- One decoder after the other: what the second has to find is stated of the first one's input. -/
theorem bind {next : α → Access β} {fits' : Prop} {result' : β → Prop}
    (h : access.Decides fits result)
    (hnext : ∀ a, fits → result a → (next a).Decides fits' result')
    (hunique : ∀ {b b' : β}, result' b → result' b' → b = b') :
    (access >>= next).Decides (fits ∧ fits') result' where
  accepts := by
    rintro ⟨hfits, hfits'⟩
    obtain ⟨a, haccess, ha⟩ := h.accepts hfits
    rw [haccess, ok_bind]
    exact (hnext a hfits ha).accepts hfits'
  refuses := by
    intro hnot
    by_cases hfits : fits
    · obtain ⟨a, haccess, ha⟩ := h.accepts hfits
      rw [haccess, ok_bind]
      exact (hnext a hfits ha).refuses fun hfits' => hnot ⟨hfits, hfits'⟩
    · rw [h.refuses hfits, error_bind]
  unique := hunique

theorem of_ok {a : α} (ha : result a) (hunique : ∀ {b b' : α}, result b → result b' → b = b') :
    Access.Decides (.ok a) True result where
  accepts _ := ⟨a, rfl, ha⟩
  refuses hnot := absurd trivial hnot
  unique := hunique

theorem map (f : α → β) (h : access.Decides fits result) :
    Access.Decides (access.map f) fits (fun b => ∃ a, result a ∧ f a = b) where
  accepts := by
    intro hfits
    obtain ⟨a, haccess, ha⟩ := h.accepts hfits
    rw [haccess]
    exact ⟨f a, rfl, a, ha, rfl⟩
  refuses := by
    intro hnot
    rw [h.refuses hnot]
    rfl
  unique := by
    rintro _ _ ⟨a, ha, rfl⟩ ⟨a', ha', rfl⟩
    rw [h.unique ha ha']

/-- The same decoder in other words. -/
theorem congr {fits' : Prop} {result' : α → Prop} (h : access.Decides fits result)
    (hfits : fits ↔ fits') (hresult : ∀ a, fits → (result a ↔ result' a))
    (hunique : ∀ {a a' : α}, result' a → result' a' → a = a') : access.Decides fits' result' where
  accepts := by
    intro h'
    obtain ⟨a, haccess, ha⟩ := h.accepts (hfits.mpr h')
    exact ⟨a, haccess, (hresult a (hfits.mpr h')).mp ha⟩
  refuses hnot := h.refuses fun h' => hnot (hfits.mp h')
  unique := hunique

end Decides

/-- What does not leave the buffer is tolerated. -/
theorem exists_tolerate {access : Access α} (h : access ≠ .error .outside) :
    ∃ found, access.tolerate = .ok found := by
  rcases access with refusal | a
  · cases refusal with
    | unsuited => exact ⟨none, rfl⟩
    | outside => exact absurd rfl h
  · exact ⟨some a, rfl⟩

theorem map_ne_outside {access : Access α} (h : access ≠ .error .outside) (f : α → β) :
    access.map f ≠ .error .outside := by
  rcases access with refusal | a
  · intro heq
    exact h (congrArg _ (Except.error.inj heq))
  · exact ok_ne_outside (f a)

end Access

namespace Bytes

/-- The octets from position `start` up to position `stop`, as far as there are any. -/
def slice (bytes : Bytes) (start stop : Nat) : Bytes :=
  (bytes.drop start).take (stop - start)

/-- The number that an octet string denotes, most significant octet first. -/
def number (bytes : Bytes) : Nat :=
  bytes.foldl (fun n octet => 256 * n + octet.toNat) 0

variable {bytes : Bytes} {start stop position : Nat}

theorem length_slice (h : stop ≤ bytes.length) : (bytes.slice start stop).length = stop - start := by
  rw [slice, List.length_take, List.length_drop]
  omega

theorem slice_of_le (h : stop ≤ start) : bytes.slice start stop = [] := by
  rw [slice, Nat.sub_eq_zero_of_le h, List.take_zero]

theorem slice_to_length (bytes : Bytes) (start : Nat) :
    bytes.slice start bytes.length = bytes.drop start := by
  rw [slice, ← List.length_drop, List.take_length]

theorem drop_eq_slice_append (h : start ≤ stop) :
    bytes.drop start = bytes.slice start stop ++ bytes.drop stop := by
  have hsplit := List.take_append_drop (stop - start) (bytes.drop start)
  rw [List.drop_drop, Nat.add_sub_cancel' h] at hsplit
  exact hsplit.symm

theorem slice_drop (bytes : Bytes) (n start stop : Nat) :
    slice (bytes.drop n) start stop = bytes.slice (n + start) (n + stop) := by
  rw [slice, List.drop_drop, slice, Nat.add_sub_add_left]

theorem slice_slice {first last : Nat} (h : start + last ≤ stop) :
    (bytes.slice start stop).slice first last = bytes.slice (start + first) (start + last) := by
  rw [slice, slice, List.drop_take, List.drop_drop, List.take_take, slice]
  congr 1
  omega

theorem getElem?_slice {i : Nat} (h : start + i < stop) :
    (bytes.slice start stop)[i]? = bytes[start + i]? := by
  rw [slice, List.getElem?_take_of_lt (by omega), List.getElem?_drop]

@[simp]
theorem slice_append_left {front : Bytes} (h : stop ≤ front.length) (back : Bytes) :
    (front ++ back).slice start stop = front.slice start stop := by
  by_cases hstart : start ≤ front.length
  · rw [slice, List.drop_append_of_le_length hstart,
      List.take_append_of_le_length (by rw [List.length_drop]; omega), slice]
  · rw [slice_of_le (by omega), slice_of_le (by omega)]

@[simp]
theorem slice_append_right {front : Bytes} (h : front.length ≤ start) (back : Bytes) :
    (front ++ back).slice start stop = back.slice (start - front.length) (stop - front.length) := by
  rw [slice, List.drop_append, List.drop_eq_nil_of_le h, List.nil_append, slice]
  congr 1
  omega

@[simp]
theorem slice_of_length_eq (h : bytes.length = stop) : bytes.slice 0 stop = bytes := by
  rw [slice, List.drop_zero, Nat.sub_zero, ← h, List.take_length]

theorem slice_eq_cons_iff {octet : UInt8} {rest : Bytes} (h : start < stop) :
    bytes.slice start stop = octet :: rest ↔
      bytes[start]? = some octet ∧ bytes.slice (start + 1) stop = rest := by
  obtain ⟨n, rfl⟩ : ∃ n, stop = start + 1 + n := ⟨stop - start - 1, by omega⟩
  have hcount : start + 1 + n - start = n + 1 := by omega
  have hrest : start + 1 + n - (start + 1) = n := by omega
  rw [slice, slice, hcount, hrest]
  by_cases hlt : start < bytes.length
  · rw [List.drop_eq_getElem_cons hlt, List.take_succ_cons, List.cons.injEq,
      List.getElem?_eq_getElem hlt, Option.some.injEq]
  · rw [List.drop_eq_nil_of_le (by omega), List.getElem?_eq_none (by omega)]
    simp

theorem octetAt_eq_ok_iff {octet : UInt8} :
    bytes.octetAt position = .ok octet ↔ bytes[position]? = some octet := by
  unfold octetAt
  split <;> simp_all

theorem octetsAt_eq_ok_iff {n : Nat} {octets : Octets n} :
    bytes.octetsAt n start = .ok octets ↔
      start + n ≤ bytes.length ∧ octets.bytes = bytes.slice start (start + n) := by
  have hcount : start + n - start = n := by omega
  rw [slice, hcount]
  unfold octetsAt
  by_cases h : start + n ≤ bytes.length
  · rw [dif_pos h, Except.ok.injEq]
    exact ⟨fun heq => ⟨h, heq ▸ rfl⟩, fun heq => Octets.ext heq.2.symm⟩
  · rw [dif_neg h]
    simp [h]

theorem window_eq_ok_iff {part : Bytes} :
    bytes.window start stop = .ok part ↔
      (start ≤ stop ∧ stop ≤ bytes.length) ∧ part = bytes.slice start stop := by
  unfold window
  split
  · next h =>
      rw [Except.ok.injEq]
      exact ⟨fun heq => ⟨h, heq.symm⟩, fun heq => heq.2.symm⟩
  · next h => simp [h]

theorem number_pair (high low : UInt8) : number [high, low] = word high low := by
  simp only [number, word, List.foldl_cons, List.foldl_nil]
  omega

theorem number_ofWord {w : Nat} (h : w < 65536) : number (ofWord w) = w := by
  rw [ofWord, number_pair, word_ofWord h]

/-- A word determines its two octets. -/
theorem word_inj {a b c d : UInt8} : word a b = word c d ↔ a = c ∧ b = d := by
  simp only [word, ← UInt8.toNat_inj]
  have := b.toNat_lt
  have := d.toNat_lt
  omega

theorem exists_slice_pair (h : position + 2 ≤ bytes.length) :
    ∃ high low, bytes.slice position (position + 2) = [high, low] := by
  refine ⟨bytes[position], bytes[position + 1], ?_⟩
  rw [slice_eq_cons_iff (by omega), slice_eq_cons_iff (by omega), slice_of_le (Nat.le_refl _)]
  exact ⟨List.getElem?_eq_getElem _, List.getElem?_eq_getElem _, rfl⟩

theorem number_slice_eq_word_iff {position : Nat} (high low : UInt8)
    (h : position + 2 ≤ bytes.length) :
    number (bytes.slice position (position + 2)) = word high low ↔
      bytes.slice position (position + 2) = [high, low] := by
  obtain ⟨high', low', hslice⟩ := exists_slice_pair h
  rw [hslice, number_pair, word_inj]
  simp

theorem octetAt_of_lt {bytes : Bytes} {position : Nat} (h : position < bytes.length) :
    bytes.octetAt position = .ok bytes[position] :=
  octetAt_eq_ok_iff.mpr (List.getElem?_eq_getElem h)

theorem wordAt_of_le (h : position + 2 ≤ bytes.length) :
    bytes.wordAt position = .ok (number (bytes.slice position (position + 2))) := by
  obtain ⟨high, low, hslice⟩ := exists_slice_pair h
  have hhigh := (slice_eq_cons_iff (by omega)).mp hslice
  have hlow := (slice_eq_cons_iff (by omega)).mp hhigh.2
  rw [hslice, number_pair, wordAt, octetAt_eq_ok_iff.mpr hhigh.1, Access.ok_bind,
    octetAt_eq_ok_iff.mpr hlow.1]
  rfl

theorem exists_octetsAt (n : Nat) {bytes : Bytes} (start : Nat) (h : start + n ≤ bytes.length) :
    ∃ octets, bytes.octetsAt n start = .ok octets ∧
      octets.bytes = bytes.slice start (start + n) := by
  have hlength : (bytes.slice start (start + n)).length = n := by
    rw [length_slice h, Nat.add_sub_cancel_left]
  exact ⟨⟨_, hlength⟩, octetsAt_eq_ok_iff.mpr ⟨h, rfl⟩, rfl⟩

theorem window_of_le (h : start ≤ stop) (h' : stop ≤ bytes.length) :
    bytes.window start stop = .ok (bytes.slice start stop) :=
  window_eq_ok_iff.mpr ⟨⟨h, h'⟩, rfl⟩

end Bytes

end Neighbours
