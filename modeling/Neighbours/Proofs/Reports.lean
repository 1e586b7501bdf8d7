import Mathlib.Data.List.Basic
import Neighbours.Proofs.Order
import Neighbours.Report

/-! What reports on a run see of its events. The parts of a report are gathered event by event, so they
stay as they are when events are left out or altered that say nothing to them, and they grow as the
events go on. Each report is made from a state of the run, so what holds in every state is seen in every
report. -/

namespace Neighbours

/-- The number of the invocation that an event tells of, if it tells of one. -/
def Event.number? : Event → Option Nat
  | .invoked number _ _ | .ended number _ _ => some number
  | .acted runner _ _ _ _ | .answered runner _ => runner
  | _ => none

namespace Events

/-- All frames sent, on whosever behalf. -/
def sent (events : List Event) : List Emission :=
  events.flatMap fun
    | .acted _ _ _ _ sent => sent
    | _ => []

section Seeing

variable {α : Type} {see : Event → Option Event}

theorem flatMap_filterMap {f : Event → List α} (h : ∀ event : Event, (see event).elim [] f = f event)
    (events : List Event) : (events.filterMap see).flatMap f = events.flatMap f := by
  induction events with
  | nil => rfl
  | cons event events ih =>
      have hevent := h event
      rw [List.flatMap_cons, ← ih]
      cases hseen : see event with
      | none =>
          rw [hseen] at hevent
          rw [List.filterMap_cons_none hseen, ← hevent]
          rfl
      | some after =>
          rw [hseen] at hevent
          rw [List.filterMap_cons_some hseen, List.flatMap_cons, ← hevent]
          rfl

theorem filterMap_filterMap {f : Event → Option α} (h : ∀ event : Event, (see event).bind f = f event)
    (events : List Event) : (events.filterMap see).filterMap f = events.filterMap f := by
  rw [List.filterMap_filterMap]
  exact List.filterMap_congr fun event _ => h event

end Seeing

/-! Events that go on. -/

section Growing

variable {number : Nat} (old new : List Event)

theorem sentBy_append (runner : Option Nat) :
    sentBy runner (old ++ new) = sentBy runner old ++ sentBy runner new :=
  List.flatMap_append

theorem answersTo_append (runner : Option Nat) :
    answersTo runner (old ++ new) = answersTo runner old ++ answersTo runner new :=
  List.filterMap_append

theorem sent_append : sent (old ++ new) = sent old ++ sent new :=
  List.flatMap_append

theorem calls_append : calls (old ++ new) = calls old ++ calls new :=
  List.flatMap_append

theorem log_append : log (old ++ new) = log old ++ log new :=
  List.filterMap_append

variable {old new}

theorem sentBy_eq_nil (h : ∀ event ∈ new, event.number? ≠ some number) :
    sentBy (some number) new = [] := by
  refine List.flatMap_eq_nil_iff.mpr fun event hmem => ?_
  cases event with
  | acted runner handle action inventory sent => exact if_neg (h _ hmem)
  | _ => rfl

theorem answersTo_eq_nil (h : ∀ event ∈ new, event.number? ≠ some number) :
    answersTo (some number) new = [] := by
  refine List.filterMap_eq_nil_iff.mpr fun event hmem => ?_
  cases event with
  | answered runner answer => exact if_neg (h _ hmem)
  | _ => rfl

/-- Invocations that are over are not touched by those that follow. -/
theorem invocations_append (hold : ∀ event ∈ old, ∀ given, event.number? = some given → given < number)
    (hnew : ∀ event ∈ new, ∀ given, event.number? = some given → number ≤ given) :
    invocations (old ++ new) = invocations old ++ invocations new := by
  rw [invocations, List.filterMap_append]
  congr 1
  · apply List.filterMap_congr
    intro event hmem
    cases event with
    | invoked given registration handle =>
        have hless := hold _ hmem given rfl
        have hnone : ∀ other ∈ new, other.number? ≠ some given := fun other hother heq =>
          Nat.not_le_of_lt hless (hnew other hother given heq)
        show some _ = some _
        rw [sentBy_append, answersTo_append, sentBy_eq_nil hnone, answersTo_eq_nil hnone,
          List.append_nil, List.append_nil]
    | _ => rfl
  · apply List.filterMap_congr
    intro event hmem
    cases event with
    | invoked given registration handle =>
        have hatLeast := hnew _ hmem given rfl
        have hnone : ∀ other ∈ old, other.number? ≠ some given := fun other hother heq =>
          Nat.not_le_of_lt (hold other hother given heq) hatLeast
        show some _ = some _
        rw [sentBy_append, answersTo_append, sentBy_eq_nil hnone, answersTo_eq_nil hnone,
          List.nil_append, List.nil_append]
    | _ => rfl

/-- Where no event tells of an invocation, there is none. -/
theorem invocations_eq_nil (h : ∀ event ∈ new, event.number? = none) : invocations new = [] := by
  refine List.filterMap_eq_nil_iff.mpr fun event hmem => ?_
  cases event with
  | invoked given registration handle => cases h _ hmem
  | _ => rfl

end Growing

end Events

namespace Report

theorem exists_mem_of_mem_ofStages {before : Nat} {stages : List Machine} {report : Report}
    (h : report ∈ ofStages before stages) :
    ∃ stage ∈ stages, ∃ count, report = ofEvents (stage.history.take count).reverse stage.engine := by
  induction stages generalizing before with
  | nil => cases h
  | cons stage stages ih =>
      rcases List.mem_cons.mp h with rfl | hrest
      · exact ⟨stage, List.mem_cons_self, _, rfl⟩
      · obtain ⟨later, hlater, hreport⟩ := ih hrest
        exact ⟨later, List.mem_cons_of_mem stage hlater, hreport⟩

/-- A report shows the engine of a state of the run, and the latest events up to it. -/
theorem exists_runIn_of_mem_ofRun {handlers : Handlers} {limit : Nat} {machine : Machine}
    {report : Report} (h : report ∈ ofRun handlers limit machine) :
    ∃ n count,
      let reached := Machine.runIn .asRegistered handlers n machine
      report = ofEvents (reached.history.take count).reverse reached.engine := by
  obtain ⟨stage, hstage, count, rfl⟩ := exists_mem_of_mem_ofStages h
  obtain ⟨n, rfl⟩ := Machine.exists_steps_of_mem_stages hstage
  exact ⟨n, count, by rw [Machine.runIn_asRegistered]⟩

end Report

end Neighbours
