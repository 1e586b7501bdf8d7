import Mathlib.Algebra.GroupWithZero.Nat
import Mathlib.Algebra.Order.BigOperators.Group.List
import Mathlib.Algebra.Order.Group.Nat
import Neighbours.Frame.Checksum

/-! Sums with the carry added back at the low end. Such an addition is one modulo `65535`, but for zero,
which only zeros add up to. So it does not matter in which order the words of a message are added, into
how many parts the message is cut, or whether the carries are added back at once or at the end, and a
word and its complement add up to a word of ones. -/

namespace Neighbours

namespace Bytes

theorem word_lt (high low : UInt8) : word high low < 65536 := by
  have hhigh := high.toNat_lt
  have hlow := low.toNat_lt
  rw [word]
  omega

theorem word_lt_of_mem_words {bytes : Bytes} {w : Nat} (h : w ∈ bytes.words) : w < 65536 := by
  fun_induction words bytes with
  | case1 high low rest ih =>
      rcases List.mem_cons.mp h with rfl | hrest
      · exact word_lt high low
      · exact ih hrest
  | case2 high =>
      rw [List.mem_singleton.mp h]
      exact word_lt high 0
  | case3 => exact absurd h List.not_mem_nil

/-- A cut between two words leaves them whole. -/
theorem words_append {front : Bytes} (h : front.length % 2 = 0) (back : Bytes) :
    (front ++ back).words = front.words ++ back.words := by
  fun_induction words front with
  | case1 high low rest ih =>
      have hrest : rest.length % 2 = 0 := by
        rw [List.length_cons, List.length_cons] at h
        omega
      rw [List.cons_append, List.cons_append, words, ih hrest, List.cons_append]
  | case2 high => exact absurd h Nat.one_ne_zero
  | case3 => rfl

theorem words_ofWord {w : Nat} (h : w < 65536) : (ofWord w).words = [w] := by
  rw [ofWord, words, words, word_ofWord h]

theorem length_words_le (bytes : Bytes) : bytes.words.length ≤ bytes.length := by
  fun_induction words bytes with
  | case1 high low rest ih =>
      simp only [List.length_cons]
      omega
  | case2 high => exact Nat.le_refl _
  | case3 => exact Nat.le_refl _

end Bytes

namespace Checksum

open Bytes

/-- A number brought below `65536` by adding what exceeds sixteen bits back at the low end. -/
def folded (n : Nat) : Nat :=
  if n = 0 then 0 else (n - 1) % 65535 + 1

theorem folded_of_lt {n : Nat} (h : n < 65536) : folded n = n := by
  unfold folded
  split <;> omega

theorem folded_lt (n : Nat) : folded n < 65536 := by
  unfold folded
  split <;> omega

theorem folded_eq_ones_iff {n : Nat} : folded n = 65535 ↔ 0 < n ∧ n % 65535 = 0 := by
  unfold folded
  split <;> omega

/-- Adding with carry is adding. -/
theorem addWithCarry_folded (m n : Nat) :
    addWithCarry (folded m) (folded n) = folded (m + n) := by
  unfold addWithCarry folded
  split <;> split <;> split <;> split <;> omega

/-- The plain sum of some words, whose carries are added back in two rounds at the end. -/
def deferred (words : List Nat) : Nat :=
  let once := words.sum / 65536 + words.sum % 65536
  once / 65536 + once % 65536

theorem deferred_eq_folded {words : List Nat} (h : words.sum < 2 ^ 32) :
    deferred words = folded words.sum := by
  simp only [deferred, folded]
  split <;> omega

theorem foldl_addWithCarry {words : List Nat} (h : ∀ w ∈ words, w < 65536) (n : Nat) :
    words.foldl addWithCarry (folded n) = folded (n + words.sum) := by
  induction words generalizing n with
  | nil => rfl
  | cons first rest ih =>
      have hfirst : folded first = first := folded_of_lt (h first List.mem_cons_self)
      have hrest : ∀ w ∈ rest, w < 65536 := fun w hw => h w (List.mem_cons_of_mem first hw)
      calc (first :: rest).foldl addWithCarry (folded n)
          = rest.foldl addWithCarry (addWithCarry (folded n) (folded first)) := by
            rw [List.foldl_cons, hfirst]
        _ = rest.foldl addWithCarry (folded (n + first)) := by rw [addWithCarry_folded]
        _ = folded (n + first + rest.sum) := ih hrest (n + first)
        _ = folded (n + (first :: rest).sum) := by rw [List.sum_cons, Nat.add_assoc]

/-- The checksum sum is the plain sum of the words, folded. -/
theorem sum_eq_folded (bytes : Bytes) : sum bytes = folded bytes.words.sum := by
  have hwords : ∀ w ∈ bytes.words, w < 65536 := fun w hw => word_lt_of_mem_words hw
  have hfold := foldl_addWithCarry hwords 0
  rwa [Nat.zero_add] at hfold

theorem sum_lt (bytes : Bytes) : sum bytes < 65536 := by
  rw [sum_eq_folded]
  exact folded_lt _

theorem sum_append {front : Bytes} (h : front.length % 2 = 0) (back : Bytes) :
    sum (front ++ back) = addWithCarry (sum front) (sum back) := by
  rw [sum_eq_folded, words_append h, List.sum_append, ← addWithCarry_folded, ← sum_eq_folded,
    ← sum_eq_folded]

/-- A part that ends between two words and whose plain sum thirty-two bits hold. -/
structure IsPart (bytes : Bytes) : Prop where
  even : bytes.length % 2 = 0
  short : bytes.length ≤ 65536

theorem IsPart.deferred_words {part : Bytes} (h : IsPart part) :
    deferred part.words = sum part := by
  have hwords := length_words_le part
  have hshort := h.short
  have hsum : part.words.sum ≤ part.words.length * 65535 :=
    List.sum_le_card_nsmul _ _ fun w hw => Nat.le_of_lt_succ (word_lt_of_mem_words hw)
  rw [sum_eq_folded, deferred_eq_folded (by omega)]

theorem folded_sum_parts {parts : List Bytes} (h : ∀ part ∈ parts, IsPart part) :
    folded (parts.map sum).sum = sum parts.flatten := by
  induction parts with
  | nil => rfl
  | cons part rest ih =>
      have hrest := ih fun other hother => h other (List.mem_cons_of_mem part hother)
      calc folded ((part :: rest).map sum).sum
          = addWithCarry (folded (sum part)) (folded (rest.map sum).sum) := by
            rw [List.map_cons, List.sum_cons, addWithCarry_folded]
        _ = addWithCarry (sum part) (sum rest.flatten) := by
            rw [folded_of_lt (sum_lt part), hrest]
        _ = sum (part :: rest).flatten := by
            rw [List.flatten_cons, sum_append (h part List.mem_cons_self).even]

/-- A message may be summed in parts, and the sums of the parts are added like words. -/
theorem deferred_parts {parts : List Bytes} (hparts : parts.length ≤ 65536)
    (h : ∀ part ∈ parts, IsPart part) :
    deferred (parts.map fun part => deferred (words part)) = sum parts.flatten := by
  have hsums : (parts.map fun part => deferred (words part)) = parts.map sum :=
    List.map_congr_left fun part hpart => (h part hpart).deferred_words
  have htotal : (parts.map sum).sum ≤ (parts.map sum).length * 65535 := by
    apply List.sum_le_card_nsmul
    intro w hw
    obtain ⟨part, -, rfl⟩ := List.mem_map.mp hw
    exact Nat.le_of_lt_succ (sum_lt part)
  rw [List.length_map] at htotal
  rw [hsums, deferred_eq_folded (by omega), folded_sum_parts h]

/-- What precedes a message may be summed in parts of its own. -/
theorem deferred_nested {parts : List Bytes} {message : Bytes} (hparts : parts.length ≤ 65536)
    (h : ∀ part ∈ parts, IsPart part) (hfront : IsPart parts.flatten) (hmessage : IsPart message) :
    deferred [deferred (parts.map fun part => deferred (words part)), deferred message.words] =
      sum (parts.flatten ++ message) := by
  have hpair : ∀ part ∈ [parts.flatten, message], IsPart part := by
    intro part hpart
    rcases List.mem_pair.mp hpart with rfl | rfl
    · exact hfront
    · exact hmessage
  have htwo : [parts.flatten, message].length ≤ 65536 := by simp
  calc deferred [deferred (parts.map fun part => deferred (words part)), deferred message.words]
      = deferred ([parts.flatten, message].map fun part => deferred (words part)) := by
        rw [deferred_parts hparts h, ← hfront.deferred_words]
        rfl
    _ = sum [parts.flatten, message].flatten := deferred_parts htwo hpair
    _ = sum (parts.flatten ++ message) := by
        rw [List.flatten_cons, List.flatten_cons, List.flatten_nil, List.append_nil]

/-- What a word takes to become ones is its complement. -/
theorem addWithCarry_complement {w : Nat} (h : w < 65536) :
    addWithCarry w (complement w) = 65535 := by
  unfold addWithCarry complement
  split <;> omega

/-- A word that is zero counts for nothing, and whatever is put in its place is added to the sum. -/
theorem sum_with_word {front : Bytes} (h : front.length % 2 = 0) {w : Nat} (hw : w < 65536)
    (back : Bytes) :
    sum (front ++ (ofWord w ++ back)) = addWithCarry (sum (front ++ (ofWord 0 ++ back))) w := by
  have hword : ∀ v, v < 65536 →
      (front ++ (ofWord v ++ back)).words.sum = front.words.sum + (v + back.words.sum) := by
    intro v hv
    rw [words_append h, words_append (by rw [length_ofWord]), words_ofWord hv, List.sum_append,
      List.sum_append, List.sum_singleton]
  calc sum (front ++ (ofWord w ++ back))
      = folded (front.words.sum + (0 + back.words.sum) + w) := by
        rw [sum_eq_folded, hword w hw]
        congr 1
        omega
    _ = addWithCarry (sum (front ++ (ofWord 0 ++ back))) w := by
        rw [← addWithCarry_folded, folded_of_lt hw, sum_eq_folded, hword 0 (by decide)]

/-- A message whose checksum word is the complement of its sum without it adds up to ones. -/
theorem sum_with_complement {front : Bytes} (h : front.length % 2 = 0) (back : Bytes) :
    sum (front ++ (ofWord (complement (sum (front ++ (ofWord 0 ++ back)))) ++ back)) = 65535 := by
  have hcomplement : complement (sum (front ++ (ofWord 0 ++ back))) < 65536 :=
    Nat.lt_succ_of_le (Nat.sub_le _ _)
  rw [sum_with_word h hcomplement, addWithCarry_complement (sum_lt _)]

end Checksum

end Neighbours
