import Neighbours.Proofs.Numbering

/-! Where handles come from. The handle on a message is made when the message is dispatched, it goes to
the handlers invoked for it, and these may keep it. Whatever is found on the stack or kept can be traced
back to an invocation and to a dispatch, and there is only one dispatch that it can be traced back to.
-/

namespace Neighbours.Outline

/-- Handles on the stack and kept ones have been given out. -/
structure Traced (outline : Outline) : Prop where
  delivery : ∀ delivery, .delivery delivery ∈ outline.levels →
    .dispatched delivery.handle ∈ outline.marks
  invocation : ∀ number registration handle ending,
    .invocation number registration handle ending ∈ outline.levels →
      .invoked number registration handle ∈ outline.marks
  kept : ∀ slot handle, (slot, handle) ∈ outline.kept →
    ∃ number registration, .invoked number registration handle ∈ outline.marks
  invoked : ∀ number registration handle, .invoked number registration handle ∈ outline.marks →
    .dispatched handle ∈ outline.marks
  unique : ∀ handle other, .dispatched handle ∈ outline.marks → .dispatched other ∈ outline.marks →
    other.message = handle.message → other = handle

namespace Traced

variable {outline : Outline} (h : outline.Traced)
include h

/-- Nothing is to be traced anew while no message is dispatched and no handler invoked. -/
theorem extend {levels : List Level} {faults : UInt64} {marks : List Event}
    (hlevels : ∀ level ∈ levels, level ∈ outline.levels ∨ level = .presentation)
    (hmarks : ∀ event ∈ outline.marks, event ∈ marks)
    (hdispatched : ∀ handle, .dispatched handle ∈ marks → .dispatched handle ∈ outline.marks)
    (hinvoked : ∀ number registration handle, .invoked number registration handle ∈ marks →
      .invoked number registration handle ∈ outline.marks) :
    { outline with levels := levels, faults := faults, marks := marks }.Traced where
  delivery delivery hmem := by
    rcases hlevels _ hmem with hold | hnew
    · exact hmarks _ (h.delivery delivery hold)
    · cases hnew
  invocation number registration handle ending hmem := by
    rcases hlevels _ hmem with hold | hnew
    · exact hmarks _ (h.invocation number registration handle ending hold)
    · cases hnew
  kept slot handle hmem := by
    obtain ⟨number, registration, hmark⟩ := h.kept slot handle hmem
    exact ⟨number, registration, hmarks _ hmark⟩
  invoked number registration handle hmark :=
    hmarks _ (h.invoked number registration handle (hinvoked _ _ _ hmark))
  unique handle other hmark hother :=
    h.unique handle other (hdispatched _ hmark) (hdispatched _ hother)

theorem arranged (order : Order) : (outline.arranged order).Traced where
  delivery delivery hmem := by
    rcases order.mem_arrangeLevels hmem with ⟨original, heq, hold⟩ | hold
    · cases heq
      exact h.delivery original hold
    · exact h.delivery delivery hold
  invocation number registration handle ending hmem := by
    rcases order.mem_arrangeLevels hmem with ⟨original, heq, -⟩ | hold
    · cases heq
    · exact h.invocation number registration handle ending hold
  kept := h.kept
  invoked := h.invoked
  unique := h.unique

/-- A handler keeps only the handle that it has been given. -/
theorem withKept {slot : String} {number : Nat} {registration : Registration} {handle : Handle}
    {ending : Ending} {rest : List Level}
    (hlevels : outline.levels = .invocation number registration handle ending :: rest) :
    { outline with kept := (slot, handle) :: outline.kept }.Traced where
  delivery := h.delivery
  invocation := h.invocation
  kept other seen hmem := by
    rcases List.mem_cons.mp hmem with heq | hold
    · cases heq
      exact ⟨number, registration, h.invocation _ _ _ _ (hlevels ▸ List.mem_cons_self)⟩
    · exact h.kept other seen hold
  invoked := h.invoked
  unique := h.unique

theorem opened (hnumbered : outline.Numbered) (arrival : Arrival) (cause : Cause) :
    (outline.opened arrival cause).Traced where
  delivery delivery hmem := by
    rcases List.mem_cons.mp hmem with heq | hold
    · cases heq
      exact mem_marks_opened.mpr (Or.inl rfl)
    · exact mem_marks_opened.mpr (Or.inr (Or.inr (h.delivery delivery hold)))
  invocation number registration handle ending hmem := by
    rcases List.mem_cons.mp hmem with heq | hold
    · cases heq
    · exact mem_marks_opened.mpr (Or.inr (Or.inr (h.invocation _ _ _ _ hold)))
  kept slot handle hmem := by
    obtain ⟨number, registration, hmark⟩ := h.kept slot handle hmem
    exact ⟨number, registration, mem_marks_opened.mpr (Or.inr (Or.inr hmark))⟩
  invoked number registration handle hmark := by
    have hold : .invoked number registration handle ∈ outline.marks := by
      simpa [mem_marks_opened] using hmark
    exact mem_marks_opened.mpr (Or.inr (Or.inr (h.invoked number registration handle hold)))
  unique handle other hmark hother hmessage := by
    have hdispatched : ∀ handle, .dispatched handle ∈ (outline.opened arrival cause).marks →
        handle = ⟨outline.messages, arrival⟩ ∨ .dispatched handle ∈ outline.marks := by
      intro handle hmark
      simpa [mem_marks_opened] using hmark
    -- The new handle has a number that no earlier one has.
    have hfresh : ∀ handle, .dispatched handle ∈ outline.marks → handle.message ≠ outline.messages :=
      fun handle hmark => Nat.ne_of_lt (hnumbered.dispatched_lt handle hmark)
    rcases hdispatched handle hmark with rfl | hold <;>
      rcases hdispatched other hother with rfl | hotherOld
    · rfl
    · exact absurd hmessage (hfresh other hotherOld)
    · exact absurd hmessage.symm (hfresh handle hold)
    · exact h.unique handle other hold hotherOld hmessage

theorem invoke (handlers : Handlers) {delivery : Delivery} (registration : Registration)
    (waiting : List Registration) {rest : List Level}
    (hlevels : outline.levels = .delivery delivery :: rest) :
    (outline.invoked handlers delivery registration waiting rest).Traced := by
  have hgiven : .dispatched delivery.handle ∈ outline.marks :=
    h.delivery delivery (hlevels ▸ List.mem_cons_self)
  constructor
  case delivery =>
    intro other hmem
    refine mem_marks_invoked.mpr (Or.inr ?_)
    rcases List.mem_cons.mp hmem with heq | hmem
    · cases heq
    · rcases List.mem_cons.mp hmem with heq | hold
      · cases heq
        exact hgiven
      · exact h.delivery other (hlevels ▸ List.mem_cons_of_mem _ hold)
  case invocation =>
    intro number other handle ending hmem
    rcases List.mem_cons.mp hmem with heq | hmem
    · cases heq
      exact mem_marks_invoked.mpr (Or.inl rfl)
    · rcases List.mem_cons.mp hmem with heq | hold
      · cases heq
      · exact mem_marks_invoked.mpr
          (Or.inr (h.invocation _ _ _ _ (hlevels ▸ List.mem_cons_of_mem _ hold)))
  case kept =>
    intro slot handle hmem
    obtain ⟨number, other, hmark⟩ := h.kept slot handle hmem
    exact ⟨number, other, mem_marks_invoked.mpr (Or.inr hmark)⟩
  case invoked =>
    intro number other handle hmark
    refine mem_marks_invoked.mpr (Or.inr ?_)
    rcases mem_marks_invoked.mp hmark with hnew | hold
    · cases hnew
      exact hgiven
    · exact h.invoked number other handle hold
  case unique =>
    intro handle other hmark hother
    exact h.unique handle other (by simpa [mem_marks_invoked] using hmark)
      (by simpa [mem_marks_invoked] using hother)

theorem concluded {delivery : Delivery} {rest : List Level}
    (hlevels : outline.levels = .delivery delivery :: rest) :
    (outline.concluded delivery rest).Traced := by
  refine h.extend ?_ ?_ ?_ ?_
  · intro level hlevel
    exact Or.inl (hlevels ▸ List.mem_cons_of_mem _ hlevel)
  · intro event hmark
    exact mem_marks_concluded.mpr (Or.inr (Or.inr hmark))
  · intro handle hmark
    simpa using mem_marks_concluded.mp hmark
  · intro number registration handle hmark
    simpa using mem_marks_concluded.mp hmark

theorem ended {number : Nat} {registration : Registration} {handle : Handle} {ending : Ending}
    {rest : List Level}
    (hlevels : outline.levels = .invocation number registration handle ending :: rest) :
    (outline.ended number registration ending rest).Traced := by
  refine h.extend ?_ ?_ ?_ ?_
  · intro level hlevel
    exact Or.inl (hlevels ▸ List.mem_cons_of_mem _ hlevel)
  · intro event hmark
    exact List.mem_append_right _ (List.mem_cons_of_mem _ hmark)
  · intro other hmark
    simpa using hmark
  · intro found other seen hmark
    simpa using hmark

end Traced

theorem Traced.turn {handlers : Handlers} {before after : Outline}
    (hturn : before.Turn handlers after) (hnumbered : before.Numbered) (h : before.Traced) :
    after.Traced := by
  cases hturn with
  | quiet => exact h
  | governed registry hgrouped => exact ⟨h.1, h.2, h.3, h.4, h.5⟩
  | kept slot number registration handle ending rest hlevels => exact h.withKept hlevels
  | presents =>
      refine h.extend ?_ (fun _ hmark => hmark) (fun _ hmark => hmark) fun _ _ _ hmark => hmark
      intro level hlevel
      exact (List.mem_cons.mp hlevel).symm
  | passes rest hlevels =>
      refine h.extend ?_ (fun _ hmark => hmark) (fun _ hmark => hmark) fun _ _ _ hmark => hmark
      intro level hlevel
      exact Or.inl (hlevels ▸ List.mem_cons_of_mem _ hlevel)
  | opens arrival cause => exact h.opened hnumbered arrival cause
  | invokes delivery registration waiting rest hlevels hwaiting =>
      exact h.invoke handlers registration waiting hlevels
  | concludes delivery rest hlevels hwaiting => exact h.concluded hlevels
  | ends number registration handle ending rest hlevels => exact h.ended hlevels

end Neighbours.Outline

namespace Neighbours.Machine

open Outline

theorem traced_start (app : App) (settings : Settings) (inventory : Inventory)
    (agenda : List Operation) : (start app settings inventory agenda).outline.Traced := by
  constructor <;> simp [start, outline]

theorem traced_runIn (order : Order) (handlers : Handlers) (n : Nat) {machine : Machine}
    (hnumbered : machine.outline.Numbered) (h : machine.outline.Traced) :
    (runIn order handlers n machine).outline.Traced :=
  numbered_preserve order handlers n (fun _ _ hturn => Traced.turn hturn)
    (fun _ h => h.arranged order) hnumbered h

end Neighbours.Machine
