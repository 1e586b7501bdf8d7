import Neighbours.Proofs.Outline

/-! The numbers of messages and invocations. Each is given out once, in the order of dispatches and of
invocations, so that two dispatches under way never share a number and an invocation that has ended
is never found running again. -/

namespace Neighbours

def Level.message? : Level → Option Nat
  | .delivery ⟨handle, _, _, _⟩ => some handle.message
  | _ => none

/-- The messages whose dispatches are under way. -/
def messagesOf (levels : List Level) : List Nat :=
  levels.filterMap Level.message?

/-- The invocations under way. -/
def numbersOf (levels : List Level) : List Nat :=
  levels.filterMap Level.number?

theorem mem_messagesOf {delivery : Delivery} {levels : List Level}
    (h : .delivery delivery ∈ levels) : delivery.handle.message ∈ messagesOf levels :=
  List.mem_filterMap.mpr ⟨_, h, rfl⟩

theorem messagesOf_arrangeLevels (order : Order) (levels : List Level) :
    messagesOf (order.arrangeLevels levels) = messagesOf levels := by
  cases levels with
  | nil => rfl
  | cons level rest => cases level <;> rfl

theorem numbersOf_arrangeLevels (order : Order) (levels : List Level) :
    numbersOf (order.arrangeLevels levels) = numbersOf levels := by
  cases levels with
  | nil => rfl
  | cons level rest => cases level <;> rfl

namespace Outline

section Marks

variable {outline : Outline} {event : Event}

theorem mem_marks_opened {arrival : Arrival} {cause : Cause} :
    event ∈ (outline.opened arrival cause).marks ↔
      event = .dispatched ⟨outline.messages, arrival⟩ ∨
        (cause = .dispatched ∧ event = .began (.dispatch arrival)) ∨ event ∈ outline.marks := by
  cases cause <;> simp [opened, Cause.asking]

theorem mem_marks_invoked {handlers : Handlers} {delivery : Delivery} {registration : Registration}
    {waiting : List Registration} {rest : List Level} :
    event ∈ (outline.invoked handlers delivery registration waiting rest).marks ↔
      event = .invoked outline.invocations registration delivery.handle ∨ event ∈ outline.marks :=
  List.mem_cons

theorem mem_marks_concluded {delivery : Delivery} {rest : List Level} :
    event ∈ (outline.concluded delivery rest).marks ↔
      (delivery.cause = .dispatched ∧
          event = .answered (runnerOf? rest) (.dispatched delivery.invoked)) ∨
        event = .concluded delivery.handle delivery.invoked ∨ event ∈ outline.marks := by
  cases hcause : delivery.cause <;> simp [concluded, Cause.telling, hcause]

theorem mem_marks_ended {number : Nat} {registration : Registration} {ending : Ending}
    {rest : List Level} :
    event ∈ (outline.ended number registration ending rest).marks ↔
      (∃ entry, ending.entry? registration = some entry ∧ event = .logged entry) ∨
        event = .ended number registration ending ∨ event ∈ outline.marks := by
  cases ending <;> simp [ended, Ending.entry?]

end Marks

/-- Numbers in use are distinct and have been given out; those of what is over are not in use. -/
structure Numbered (outline : Outline) : Prop where
  message_lt : ∀ message ∈ messagesOf outline.levels, message < outline.messages
  nodup_messages : (messagesOf outline.levels).Nodup
  number_lt : ∀ number ∈ numbersOf outline.levels, number < outline.invocations
  nodup_numbers : (numbersOf outline.levels).Nodup
  dispatched_lt : ∀ handle, .dispatched handle ∈ outline.marks → handle.message < outline.messages
  invoked_lt : ∀ number registration handle, .invoked number registration handle ∈ outline.marks →
    number < outline.invocations ∧ handle.message < outline.messages
  concluded_lt : ∀ handle invoked, .concluded handle invoked ∈ outline.marks →
    handle.message < outline.messages ∧ handle.message ∉ messagesOf outline.levels
  ended_lt : ∀ number registration ending, .ended number registration ending ∈ outline.marks →
    number < outline.invocations ∧ number ∉ numbersOf outline.levels

namespace Numbered

variable {outline : Outline} (h : outline.Numbered)
include h

/-- Levels may be taken away from the stack. -/
theorem withLevels {levels : List Level}
    (hmessages : (messagesOf levels).Sublist (messagesOf outline.levels))
    (hnumbers : (numbersOf levels).Sublist (numbersOf outline.levels)) :
    { outline with levels := levels }.Numbered where
  message_lt message hmem := h.message_lt message (hmessages.subset hmem)
  nodup_messages := h.nodup_messages.sublist hmessages
  number_lt number hmem := h.number_lt number (hnumbers.subset hmem)
  nodup_numbers := h.nodup_numbers.sublist hnumbers
  dispatched_lt := h.dispatched_lt
  invoked_lt := h.invoked_lt
  concluded_lt handle invoked hmark :=
    (h.concluded_lt handle invoked hmark).imp_right (mt fun hmem => hmessages.subset hmem)
  ended_lt number registration ending hmark :=
    (h.ended_lt number registration ending hmark).imp_right (mt fun hmem => hnumbers.subset hmem)

theorem arranged (order : Order) : (outline.arranged order).Numbered := by
  refine h.withLevels ?_ ?_
  · rw [messagesOf_arrangeLevels]
  · rw [numbersOf_arrangeLevels]

theorem messages_not_mem : outline.messages ∉ messagesOf outline.levels :=
  fun hmem => Nat.lt_irrefl _ (h.message_lt _ hmem)

theorem invocations_not_mem : outline.invocations ∉ numbersOf outline.levels :=
  fun hmem => Nat.lt_irrefl _ (h.number_lt _ hmem)

/-- A message is under way but once. -/
theorem message_not_mem_rest {delivery : Delivery} {rest : List Level}
    (hlevels : outline.levels = .delivery delivery :: rest) :
    delivery.handle.message ∉ messagesOf rest := by
  have hnodup := h.nodup_messages
  rw [hlevels] at hnodup
  exact (List.nodup_cons.mp hnodup).1

/-- An invocation runs but once. -/
theorem number_not_mem_rest {number : Nat} {registration : Registration} {handle : Handle}
    {ending : Ending} {rest : List Level}
    (hlevels : outline.levels = .invocation number registration handle ending :: rest) :
    number ∉ numbersOf rest := by
  have hnodup := h.nodup_numbers
  rw [hlevels] at hnodup
  exact (List.nodup_cons.mp hnodup).1

theorem opened (arrival : Arrival) (cause : Cause) : (outline.opened arrival cause).Numbered := by
  constructor
  case message_lt =>
    intro message hopen
    rcases List.mem_cons.mp hopen with rfl | hold
    · exact Nat.lt_succ_self _
    · exact Nat.lt_succ_of_lt (h.message_lt message hold)
  case nodup_messages => exact List.nodup_cons.mpr ⟨h.messages_not_mem, h.nodup_messages⟩
  case number_lt => exact h.number_lt
  case nodup_numbers => exact h.nodup_numbers
  case dispatched_lt =>
    intro handle hmark
    rcases mem_marks_opened.mp hmark with hnew | ⟨-, hnew⟩ | hold
    · cases hnew
      exact Nat.lt_succ_self _
    · cases hnew
    · exact Nat.lt_succ_of_lt (h.dispatched_lt handle hold)
  case invoked_lt =>
    intro number registration handle hmark
    have hold := h.invoked_lt number registration handle (by simpa [mem_marks_opened] using hmark)
    exact hold.imp_right Nat.lt_succ_of_lt
  case concluded_lt =>
    intro handle invoked hmark
    obtain ⟨hlt, hnot⟩ := h.concluded_lt handle invoked (by simpa [mem_marks_opened] using hmark)
    exact ⟨Nat.lt_succ_of_lt hlt, List.not_mem_cons_of_ne_of_not_mem (Nat.ne_of_lt hlt) hnot⟩
  case ended_lt =>
    intro number registration ending hmark
    exact h.ended_lt number registration ending (by simpa [mem_marks_opened] using hmark)

theorem invoked (handlers : Handlers) {delivery : Delivery} (registration : Registration)
    (waiting : List Registration) {rest : List Level}
    (hlevels : outline.levels = .delivery delivery :: rest) :
    (outline.invoked handlers delivery registration waiting rest).Numbered := by
  have hmessages : messagesOf outline.levels =
      messagesOf (outline.invoked handlers delivery registration waiting rest).levels := by
    rw [hlevels]
    rfl
  have hnumbers : outline.invocations :: numbersOf outline.levels =
      numbersOf (outline.invoked handlers delivery registration waiting rest).levels := by
    rw [hlevels]
    rfl
  constructor
  case message_lt =>
    rw [← hmessages]
    exact h.message_lt
  case nodup_messages =>
    rw [← hmessages]
    exact h.nodup_messages
  case number_lt =>
    rw [← hnumbers]
    intro number hrunning
    rcases List.mem_cons.mp hrunning with rfl | hold
    · exact Nat.lt_succ_self _
    · exact Nat.lt_succ_of_lt (h.number_lt number hold)
  case nodup_numbers =>
    rw [← hnumbers]
    exact List.nodup_cons.mpr ⟨h.invocations_not_mem, h.nodup_numbers⟩
  case dispatched_lt =>
    intro handle hmark
    exact h.dispatched_lt handle (by simpa [mem_marks_invoked] using hmark)
  case invoked_lt =>
    intro number other handle hmark
    rcases mem_marks_invoked.mp hmark with hnew | hold
    · cases hnew
      have hopen : delivery.handle.message ∈ messagesOf outline.levels := by
        rw [hlevels]
        exact List.mem_cons_self
      exact ⟨Nat.lt_succ_self _, h.message_lt _ hopen⟩
    · exact (h.invoked_lt number other handle hold).imp_left Nat.lt_succ_of_lt
  case concluded_lt =>
    rw [← hmessages]
    intro handle invoked hmark
    exact h.concluded_lt handle invoked (by simpa [mem_marks_invoked] using hmark)
  case ended_lt =>
    rw [← hnumbers]
    intro number other ending hmark
    obtain ⟨hlt, hnot⟩ := h.ended_lt number other ending (by simpa [mem_marks_invoked] using hmark)
    exact ⟨Nat.lt_succ_of_lt hlt, List.not_mem_cons_of_ne_of_not_mem (Nat.ne_of_lt hlt) hnot⟩

theorem concluded {delivery : Delivery} {rest : List Level}
    (hlevels : outline.levels = .delivery delivery :: rest) :
    (outline.concluded delivery rest).Numbered := by
  have hmessages : messagesOf outline.levels = delivery.handle.message :: messagesOf rest := by
    rw [hlevels]
    rfl
  have hnumbers : numbersOf outline.levels = numbersOf rest := by
    rw [hlevels]
    rfl
  have hrest : { outline with levels := rest }.Numbered := by
    refine h.withLevels ?_ ?_
    · rw [hmessages]
      exact List.sublist_cons_self _ _
    · rw [hnumbers]
  constructor
  case message_lt => exact hrest.message_lt
  case nodup_messages => exact hrest.nodup_messages
  case number_lt => exact hrest.number_lt
  case nodup_numbers => exact hrest.nodup_numbers
  case dispatched_lt =>
    intro handle hmark
    exact h.dispatched_lt handle (by simpa [mem_marks_concluded] using hmark)
  case invoked_lt =>
    intro number registration handle hmark
    exact h.invoked_lt number registration handle (by simpa [mem_marks_concluded] using hmark)
  case concluded_lt =>
    intro handle invoked hmark
    rcases mem_marks_concluded.mp hmark with ⟨-, hnew⟩ | hnew | hold
    · cases hnew
    · cases hnew
      exact ⟨h.message_lt _ (hmessages ▸ List.mem_cons_self), h.message_not_mem_rest hlevels⟩
    · exact hrest.concluded_lt handle invoked hold
  case ended_lt =>
    intro number registration ending hmark
    exact hrest.ended_lt number registration ending (by simpa [mem_marks_concluded] using hmark)

theorem ended {number : Nat} {registration : Registration} {handle : Handle} {ending : Ending}
    {rest : List Level}
    (hlevels : outline.levels = .invocation number registration handle ending :: rest) :
    (outline.ended number registration ending rest).Numbered := by
  have hmessages : messagesOf outline.levels = messagesOf rest := by
    rw [hlevels]
    rfl
  have hnumbers : numbersOf outline.levels = number :: numbersOf rest := by
    rw [hlevels]
    rfl
  have hrest : { outline with levels := rest }.Numbered := by
    refine h.withLevels ?_ ?_
    · rw [hmessages]
    · rw [hnumbers]
      exact List.sublist_cons_self _ _
  constructor
  case message_lt => exact hrest.message_lt
  case nodup_messages => exact hrest.nodup_messages
  case number_lt => exact hrest.number_lt
  case nodup_numbers => exact hrest.nodup_numbers
  case dispatched_lt =>
    intro other hmark
    exact h.dispatched_lt other (by simpa [mem_marks_ended] using hmark)
  case invoked_lt =>
    intro found other seen hmark
    exact h.invoked_lt found other seen (by simpa [mem_marks_ended] using hmark)
  case concluded_lt =>
    intro other invoked hmark
    exact hrest.concluded_lt other invoked (by simpa [mem_marks_ended] using hmark)
  case ended_lt =>
    intro found other last hmark
    rcases mem_marks_ended.mp hmark with ⟨entry, -, hnew⟩ | hnew | hold
    · cases hnew
    · cases hnew
      exact ⟨h.number_lt _ (hnumbers ▸ List.mem_cons_self), h.number_not_mem_rest hlevels⟩
    · exact hrest.ended_lt found other last hold

end Numbered

theorem Numbered.turn {handlers : Handlers} {before after : Outline}
    (hturn : before.Turn handlers after) (h : before.Numbered) : after.Numbered := by
  cases hturn with
  | quiet => exact h
  | governed registry hgrouped => exact ⟨h.1, h.2, h.3, h.4, h.5, h.6, h.7, h.8⟩
  | kept slot number registration handle ending rest hlevels =>
      exact ⟨h.1, h.2, h.3, h.4, h.5, h.6, h.7, h.8⟩
  | presents => exact h.withLevels (List.Sublist.refl _) (List.Sublist.refl _)
  | passes rest hlevels =>
      refine h.withLevels ?_ ?_
      · rw [hlevels]
        exact List.Sublist.refl _
      · rw [hlevels]
        exact List.Sublist.refl _
  | opens arrival cause => exact h.opened arrival cause
  | invokes delivery registration waiting rest hlevels hwaiting =>
      exact h.invoked handlers registration waiting hlevels
  | concludes delivery rest hlevels hwaiting => exact h.concluded hlevels
  | ends number registration handle ending rest hlevels => exact h.ended hlevels

end Outline

namespace Machine

theorem numbered_start (app : App) (settings : Settings) (inventory : Inventory)
    (agenda : List Operation) : (start app settings inventory agenda).outline.Numbered := by
  constructor <;> simp [start, outline, messagesOf, numbersOf]

variable (order : Order) (handlers : Handlers) (n : Nat) {machine : Machine}

theorem numbered_runIn (h : machine.outline.Numbered) :
    (runIn order handlers n machine).outline.Numbered :=
  outline_preserve order handlers (fun _ _ hturn => Outline.Numbered.turn hturn)
    (fun _ h => h.arranged order) n h

/-- What every turn preserves as long as numbers are given out once holds throughout a run. -/
theorem numbered_preserve {holds : Outline → Prop}
    (hturn : ∀ before after, before.Turn handlers after → before.Numbered → holds before →
      holds after)
    (harranged : ∀ outline, holds outline → holds (outline.arranged order))
    (hnumbered : machine.outline.Numbered) (h : holds machine.outline) :
    holds (runIn order handlers n machine).outline := by
  have hboth : ∀ before after : Outline, before.Turn handlers after →
      before.Numbered ∧ holds before → after.Numbered ∧ holds after :=
    fun before after hstep h => ⟨h.1.turn hstep, hturn before after hstep h.1 h.2⟩
  have hagain : ∀ outline : Outline, outline.Numbered ∧ holds outline →
      (outline.arranged order).Numbered ∧ holds (outline.arranged order) :=
    fun outline h => ⟨h.1.arranged order, harranged outline h.2⟩
  exact (outline_preserve order handlers hboth hagain n ⟨hnumbered, h⟩).2

end Machine

end Neighbours
