import Neighbours.Proofs.Calm
import Neighbours.Proofs.Reports

/-! Containment of faults. A run in which handlers fail and panic is compared with the run in which they
return normally instead. Nothing that the runs do differs, and the logs differ by the entries of the
faults alone: one for every invocation that ends in a fault, and as many as are counted. -/

namespace Neighbours

namespace Events

theorem calls_calm (events : List Event) : calls (events.filterMap Event.calm?) = calls events := by
  apply flatMap_filterMap
  intro event
  cases event with
  | logged entry => cases entry <;> rfl
  | _ => rfl

theorem sentBy_calm (runner : Option Nat) (events : List Event) :
    sentBy runner (events.filterMap Event.calm?) = sentBy runner events := by
  apply flatMap_filterMap
  intro event
  cases event with
  | logged entry => cases entry <;> rfl
  | _ => rfl

theorem answersTo_calm (runner : Option Nat) (events : List Event) :
    answersTo runner (events.filterMap Event.calm?) = answersTo runner events := by
  apply filterMap_filterMap
  intro event
  cases event with
  | logged entry => cases entry <;> rfl
  | _ => rfl

theorem invocations_calm (events : List Event) :
    invocations (events.filterMap Event.calm?) = invocations events := by
  unfold invocations
  simp only [sentBy_calm, answersTo_calm]
  apply filterMap_filterMap
  intro event
  cases event with
  | logged entry => cases entry <;> rfl
  | _ => rfl

theorem log_calm (events : List Event) :
    log (events.filterMap Event.calm?) = (log events).filter (!·.isError) := by
  rw [log, log, List.filterMap_filterMap, List.filter_filterMap]
  apply List.filterMap_congr
  intro event _
  cases event with
  | logged entry => cases entry <;> rfl
  | _ => rfl

end Events

/-- The entry of a fault, if the event logs one. -/
def Event.error? : Event → Option LogEntry
  | .logged entry => if entry.isError then some entry else none
  | _ => none

/-- The entry of the fault in which an invocation will end, if the event starts one that will: it names
the handler and the application of the registration. -/
def Event.due? (handlers : Handlers) : Event → Option LogEntry
  | .invoked number registration handle =>
    (handlers number registration.handler handle.arrival).ending.entry? registration
  | _ => none

theorem Events.filter_isError_log (events : List Event) :
    (log events).filter (·.isError) = events.filterMap Event.error? := by
  rw [log, List.filter_filterMap]
  apply List.filterMap_congr
  intro event _
  cases event with
  | logged entry => cases entry <;> rfl
  | _ => rfl

/-- The entry that a running invocation has still to leave. -/
def Level.due? : Level → Option LogEntry
  | .invocation _ registration _ ending => ending.entry? registration
  | _ => none

namespace Outline

def errors (outline : Outline) : List LogEntry :=
  outline.marks.filterMap Event.error?

/-- The faults logged and those of invocations still running are those of all invocations. -/
structure Reported (handlers : Handlers) (outline : Outline) : Prop where
  complete : (outline.errors ++ outline.levels.filterMap Level.due?).Perm
    (outline.marks.filterMap (Event.due? handlers))
  counted : outline.faults = UInt64.ofNat outline.errors.length

namespace Reported

variable {handlers : Handlers} {outline : Outline} (h : outline.Reported handlers)
include h

theorem arranged (order : Order) : (outline.arranged order).Reported handlers := by
  have hlevels : (order.arrangeLevels outline.levels).filterMap Level.due? =
      outline.levels.filterMap Level.due? := by
    cases outline.levels with
    | nil => rfl
    | cons level rest => cases level <;> rfl
  refine ⟨?_, h.counted⟩
  rw [Outline.arranged, hlevels]
  exact h.complete

/-- Nothing is to be reported while no handler is invoked and none comes to its end. -/
theorem extend {messages : Nat} {levels : List Level} {marks : List Event}
    (hlevels : levels.filterMap Level.due? = outline.levels.filterMap Level.due?)
    (herrors : marks.filterMap Event.error? = outline.errors)
    (hdue : marks.filterMap (Event.due? handlers) =
      outline.marks.filterMap (Event.due? handlers)) :
    { outline with messages := messages, levels := levels, marks := marks }.Reported handlers where
  complete := by
    rw [errors, herrors, hlevels, hdue]
    exact h.complete
  counted := by
    rw [errors, herrors]
    exact h.counted

theorem opened (arrival : Arrival) (cause : Cause) :
    (outline.opened arrival cause).Reported handlers := by
  refine h.extend rfl ?_ ?_ <;> cases cause <;> rfl

/-- An invocation that starts takes the report of its fault upon itself. -/
theorem invoked {delivery : Delivery} {registration : Registration} {waiting : List Registration}
    {rest : List Level} (hlevels : outline.levels = .delivery delivery :: rest) :
    (outline.invoked handlers delivery registration waiting rest).Reported handlers where
  complete := by
    have hcomplete := h.complete
    rw [hlevels, List.filterMap_cons_none rfl] at hcomplete
    simp only [errors, Outline.invoked, List.filterMap_cons, Event.error?, Event.due?, Level.due?]
    cases (handlers outline.invocations registration.handler delivery.handle.arrival).ending.entry?
      registration with
    | none => exact hcomplete
    | some entry => exact List.perm_middle.trans (hcomplete.cons entry)
  counted := h.counted

theorem concluded {delivery : Delivery} {rest : List Level}
    (hlevels : outline.levels = .delivery delivery :: rest) :
    (outline.concluded delivery rest).Reported handlers := by
  refine h.extend ?_ ?_ ?_
  · rw [hlevels]
    rfl
  · cases hcause : delivery.cause <;> rfl
  · cases hcause : delivery.cause <;> rfl

/-- An invocation that ends reports its fault. -/
theorem ended {number : Nat} {registration : Registration} {handle : Handle} {ending : Ending}
    {rest : List Level}
    (hlevels : outline.levels = .invocation number registration handle ending :: rest) :
    (outline.ended number registration ending rest).Reported handlers := by
  have hcomplete := h.complete
  rw [hlevels] at hcomplete
  have hone : ∀ entry, outline.faults + 1 = UInt64.ofNat (entry :: outline.errors).length := by
    intro entry
    rw [h.counted, List.length_cons, UInt64.ofNat_add]
    rfl
  cases ending with
  | normal => exact ⟨hcomplete, h.counted⟩
  | failed error => exact ⟨List.perm_middle.symm.trans hcomplete, hone _⟩
  | panicked => exact ⟨List.perm_middle.symm.trans hcomplete, hone _⟩

end Reported

theorem Reported.turn {handlers : Handlers} {before after : Outline}
    (hturn : before.Turn handlers after) (h : before.Reported handlers) :
    after.Reported handlers := by
  cases hturn with
  | quiet => exact h
  | governed registry hgrouped => exact ⟨h.1, h.2⟩
  | kept slot number registration handle ending rest hlevels => exact ⟨h.1, h.2⟩
  | presents => exact h.extend rfl rfl rfl
  | passes rest hlevels =>
      refine h.extend ?_ rfl rfl
      rw [hlevels]
      rfl
  | opens arrival cause => exact h.opened arrival cause
  | invokes delivery registration waiting rest hlevels hwaiting => exact h.invoked hlevels
  | concludes delivery rest hlevels hwaiting => exact h.concluded hlevels
  | ends number registration handle ending rest hlevels => exact h.ended hlevels

end Outline

namespace Machine

variable (order : Order) (handlers : Handlers)

theorem errors_outline (machine : Machine) :
    machine.outline.errors = machine.history.filterMap Event.error? := by
  apply machine.filterMap_marks
  intro event hmark
  cases event with
  | logged entry => exact if_neg (ne_true_of_eq_false hmark)
  | _ => rfl

theorem due_outline (machine : Machine) :
    machine.outline.marks.filterMap (Event.due? handlers) =
      machine.history.filterMap (Event.due? handlers) := by
  apply machine.filterMap_marks
  intro event hmark
  cases event with
  | invoked number registration handle => cases hmark
  | _ => rfl

theorem reported_runIn (app : App) (settings : Settings) (inventory : Inventory)
    (agenda : List Operation) (n : Nat) :
    (runIn order handlers n (start app settings inventory agenda)).outline.Reported handlers :=
  outline_preserve order handlers (fun _ _ hturn => Outline.Reported.turn hturn)
    (fun _ h => h.arranged order) n ⟨List.Perm.refl _, rfl⟩

/-- Faults are contained. After any number of steps, a run and the run without faults have done the
same, have come equally far and have the same engine but for the count of faults. The logs differ by
entries of faults only; of these there is at most one for every invocation that is to end in a fault,
exactly one when no handler is running any more, and always as many as are counted. -/
theorem faults_contained (app : App) (settings : Settings) (inventory : Inventory)
    (agenda : List Operation) (n : Nat) :
    let faulty := runIn order handlers n (start app settings inventory agenda)
    let calm := runIn order handlers.calm n (start app settings inventory agenda)
    calm.engine = { faulty.engine with stats := { faulty.engine.stats with faults := 0 } } ∧
      calm.history = faulty.history.filterMap Event.calm? ∧
      (calm.agenda = faulty.agenda ∧ calm.tasks.length = faulty.tasks.length) ∧
      (∀ runner, Events.answersTo runner calm.history.reverse =
        Events.answersTo runner faulty.history.reverse) ∧
      Events.calls calm.history.reverse = Events.calls faulty.history.reverse ∧
      (∀ runner, Events.sentBy runner calm.history.reverse =
        Events.sentBy runner faulty.history.reverse) ∧
      Events.invocations calm.history.reverse = Events.invocations faulty.history.reverse ∧
      Events.log calm.history.reverse =
        (Events.log faulty.history.reverse).filter (!·.isError) ∧
      let errors := (Events.log faulty.history.reverse).filter (·.isError)
      let due := faulty.history.reverse.filterMap (Event.due? handlers)
      errors.Subperm due ∧ (faulty.tasks = [] → errors.Perm due) ∧
        faulty.engine.stats.faults = UInt64.ofNat errors.length := by
  intro faulty calm
  obtain ⟨hcomplete, hcounted⟩ := reported_runIn order handlers app settings inventory agenda n
  have hcalm : calm = faulty.calm :=
    (calm_runIn order handlers n (start app settings inventory agenda)).symm
  have hreverse : calm.history.reverse = faulty.history.reverse.filterMap Event.calm? := by
    rw [hcalm, List.filterMap_reverse]
    rfl
  have herrors : (Events.log faulty.history.reverse).filter (·.isError) =
      faulty.outline.errors.reverse := by
    rw [Events.filter_isError_log, List.filterMap_reverse, errors_outline]
  have hdue : faulty.history.reverse.filterMap (Event.due? handlers) =
      (faulty.outline.marks.filterMap (Event.due? handlers)).reverse := by
    rw [List.filterMap_reverse, due_outline]
  refine ⟨?_, ?_, ⟨?_, ?_⟩, ?_, ?_, ?_, ?_, ?_, ?_, ?_, ?_⟩
  · rw [hcalm]
    rfl
  · rw [hcalm]
    rfl
  · rw [hcalm]
    rfl
  · rw [hcalm]
    exact List.length_map _
  · intro runner
    rw [hreverse, Events.answersTo_calm]
  · rw [hreverse, Events.calls_calm]
  · intro runner
    rw [hreverse, Events.sentBy_calm]
  · rw [hreverse, Events.invocations_calm]
  · rw [hreverse, Events.log_calm]
  · rw [herrors, hdue]
    exact (List.reverse_perm _).subperm.trans ((List.sublist_append_left _ _).subperm.trans
      (hcomplete.trans (List.reverse_perm _).symm).subperm)
  · intro htasks
    have hnone : faulty.outline.levels = [] := by
      rw [outline, htasks]
      rfl
    rw [hnone, List.filterMap_nil, List.append_nil] at hcomplete
    rw [herrors, hdue]
    exact (List.reverse_perm _).trans (hcomplete.trans (List.reverse_perm _).symm)
  · rw [herrors, List.length_reverse]
    exact hcounted

end Machine

end Neighbours
