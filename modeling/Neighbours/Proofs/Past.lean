import Neighbours.Proofs.Outline
import Neighbours.Proofs.Reports

/-! What happened before. A machine writes its history and never reads it: with other events in its
past, a step does the same to it, and adds the same to its history. -/

namespace Neighbours

/-- The tasks after a dispatch: a packet that was presented is blocked. -/
def Cause.settle : Cause → List Task → List Task
  | .presented, .presenting packet left :: tasks =>
    .presenting { packet with blocked := true } left :: tasks
  | _, tasks => tasks

/-- What is answered to a dispatch. -/
def Delivery.answer? (delivery : Delivery) : Option Answer :=
  match delivery.cause with
  | .received => some (.received true)
  | .presented => none
  | .dispatched => some (.dispatched delivery.invoked)

namespace Machine

/-- What is noted at the end of a dispatch, the latest first. -/
def closing (machine : Machine) (delivery : Delivery) : List Event :=
  let emissions := machine.emissions.getD delivery.handle.message 0
  (delivery.answer?.map (.answered machine.runner?)).toList ++
    .concluded delivery.handle delivery.invoked ::
      if machine.engine.warnsDuplicates && decide (1 < emissions) then
        [.logged (.duplicates delivery.handle.arrival emissions)]
      else []

theorem blockPresented_eq (machine : Machine) :
    machine.blockPresented = { machine with tasks := Cause.presented.settle machine.tasks } := by
  obtain ⟨engine, inventory, kept, emissions, invocations, tasks, agenda, history⟩ := machine
  cases tasks with
  | nil => rfl
  | cons task tasks => cases task <;> rfl

theorem conclude_eq (machine : Machine) (delivery : Delivery) :
    machine.conclude delivery =
      { machine with
        tasks := delivery.cause.settle machine.tasks
        history := machine.closing delivery ++ machine.history } := by
  obtain ⟨handle, cause, waiting, invoked⟩ := delivery
  simp only [conclude, closing, blockPresented_eq]
  cases machine.engine.warnsDuplicates &&
    decide (1 < machine.emissions.getD handle.message 0) with
  | false => cases cause <;> rfl
  | true => cases cause <;> rfl

/-- The same machine with more behind it. -/
def withPast (machine : Machine) (past : List Event) : Machine :=
  { machine with history := machine.history ++ past }

/-- The same machine with nothing behind it. -/
def unrecorded (machine : Machine) : Machine :=
  { machine with history := [] }

section Blocks

variable (machine : Machine) (past : List Event)

theorem takeIn_withPast (frame : Bytes) (point : Point) (cause : Cause) :
    (machine.withPast past).takeIn frame point cause =
      ((machine.takeIn frame point cause).1.withPast past,
        (machine.takeIn frame point cause).2) := by
  simp only [takeIn]
  cases Arrival.ofFrame? frame point <;> rfl

theorem begin_withPast (operation : Operation) :
    (machine.withPast past).begin operation = (machine.begin operation).withPast past := by
  cases operation with
  | receive frame point =>
      have htaken := (machine.record (.began (.receive frame point))).takeIn_withPast past frame point
        .received
      simp only [begin]
      rw [show (machine.withPast past).record (.began (.receive frame point)) =
        (machine.record (.began (.receive frame point))).withPast past from rfl, htaken]
      rcases (machine.record (.began (.receive frame point))).takeIn frame point .received with
        ⟨taken, received⟩
      cases received <;> rfl
  | act slot action =>
      have hkept : ((machine.withPast past).record (.began (.act slot action))).kept = machine.kept :=
        rfl
      have hsame : (machine.record (.began (.act slot action))).kept = machine.kept := rfl
      simp only [begin, hkept, hsame]
      cases machine.kept.lookup slot <;> rfl
  | _ => rfl

theorem present_withPast (packet : Packet) (left : Nat) :
    (machine.withPast past).present packet left = (machine.present packet left).withPast past := by
  simp only [present]
  split
  · rfl
  · exact congrArg Prod.fst (((machine.record (.presented packet)).push
      (.presenting packet left)).takeIn_withPast past packet.frame packet.point .presented)

theorem conclude_withPast (delivery : Delivery) :
    (machine.withPast past).conclude delivery = (machine.conclude delivery).withPast past := by
  rw [conclude_eq, conclude_eq]
  simp only [withPast, closing, List.append_assoc]
  rfl

theorem finish_withPast (invocation : Invocation) :
    (machine.withPast past).finish invocation = (machine.finish invocation).withPast past := by
  simp only [finish]
  cases invocation.script.ending <;> rfl

theorem perform_withPast (handle : Handle) (step : Step) :
    (machine.withPast past).perform handle step = (machine.perform handle step).withPast past := by
  cases step with
  | perform operation => exact machine.begin_withPast past operation
  | _ => rfl

theorem step_withPast (handlers : Handlers) :
    step handlers (machine.withPast past) = (step handlers machine).withPast past := by
  obtain ⟨engine, inventory, kept, emissions, invocations, tasks, agenda, history⟩ := machine
  cases tasks with
  | nil =>
      cases agenda with
      | nil => rfl
      | cons operation agenda =>
          exact begin_withPast ⟨engine, inventory, kept, emissions, invocations, [], agenda, history⟩
            past operation
  | cons task tasks =>
      let machine : Machine := ⟨engine, inventory, kept, emissions, invocations, tasks, agenda, history⟩
      cases task with
      | presenting packet left =>
          cases left with
          | zero => rfl
          | succ left => exact machine.present_withPast past packet left
      | delivering delivery =>
          obtain ⟨handle, cause, waiting, invoked⟩ := delivery
          cases waiting with
          | nil => exact machine.conclude_withPast past ⟨handle, cause, [], invoked⟩
          | cons registration waiting => rfl
      | running invocation =>
          obtain ⟨number, registration, handle, ⟨steps, ending⟩⟩ := invocation
          cases steps with
          | nil => exact machine.finish_withPast past ⟨number, registration, handle, ⟨[], ending⟩⟩
          | cons first steps =>
              exact perform_withPast ⟨engine, inventory, kept, emissions, invocations,
                .running ⟨number, registration, handle, ⟨steps, ending⟩⟩ :: tasks, agenda, history⟩
                past handle first

theorem step_eq_withPast (handlers : Handlers) :
    step handlers machine = (step handlers machine.unrecorded).withPast machine.history :=
  machine.unrecorded.step_withPast machine.history handlers

theorem history_step (handlers : Handlers) :
    (step handlers machine).history =
      (step handlers machine.unrecorded).history ++ machine.history := by
  rw [machine.step_eq_withPast]
  rfl

theorem unrecorded_step (handlers : Handlers) :
    (step handlers machine).unrecorded = (step handlers machine.unrecorded).unrecorded := by
  rw [machine.step_eq_withPast]
  rfl

/-- So does a run. -/
theorem runIn_withPast (order : Order) (handlers : Handlers) (n : Nat) :
    runIn order handlers n (machine.withPast past) =
      (runIn order handlers n machine).withPast past := by
  induction n generalizing machine with
  | zero => rfl
  | succ n ih =>
      have hstep : stepIn order handlers (machine.withPast past) =
          (stepIn order handlers machine).withPast past := by
        rw [stepIn, step_withPast]
        rfl
      rw [runIn, hstep, ih, runIn]

theorem history_runIn (order : Order) (handlers : Handlers) (n : Nat) :
    (runIn order handlers n machine).history =
      (runIn order handlers n machine.unrecorded).history ++ machine.history :=
  congrArg history (machine.unrecorded.runIn_withPast machine.history order handlers n)

end Blocks

/-! While no handler runs, what is added tells of no invocation. -/

/-- No event tells of an invocation that is still to come. -/
def Fresh (machine : Machine) : Prop :=
  ∀ event ∈ machine.history, ∀ number, event.number? = some number → number < machine.invocations

/-- No event tells of an invocation at all. -/
def Unnumbered (machine : Machine) : Prop :=
  ∀ event ∈ machine.history, event.number? = none

section Adding

variable {machine : Machine}

theorem unnumbered_unrecorded : machine.unrecorded.Unnumbered :=
  fun _ hmem => absurd hmem List.not_mem_nil

theorem Unnumbered.record (h : machine.Unnumbered) {event : Event} (hevent : event.number? = none) :
    (machine.record event).Unnumbered := by
  intro other hmem
  rcases List.mem_cons.mp hmem with heq | hold
  · rw [heq, hevent]
  · exact h other hold

theorem Unnumbered.reply (h : machine.Unnumbered) (hrunner : machine.runner? = none)
    (answer : Answer) : (machine.reply answer).Unnumbered :=
  h.record hrunner

theorem Unnumbered.begin (h : machine.Unnumbered) (hrunner : machine.runner? = none)
    (operation : Operation) : (machine.begin operation).Unnumbered := by
  have hbegan : (machine.record (.began operation)).Unnumbered := h.record rfl
  cases operation with
  | command command =>
      let governed : Machine := { machine.record (.began (.command command)) with
        engine := (machine.engine.run command).engine }
      have hgoverned : governed.Unnumbered := hbegan
      exact (hgoverned.record rfl).reply hrunner _
  | receive frame point =>
      simp only [Machine.begin, takeIn]
      cases Arrival.ofFrame? frame point with
      | none => exact reply hbegan hrunner (.received false)
      | some arrival => exact hbegan.record rfl
  | present packet times => exact hbegan
  | dispatch arrival => exact hbegan.record rfl
  | act slot action =>
      simp only [Machine.begin]
      cases (machine.record (.began (.act slot action))).kept.lookup slot with
      | none => exact hbegan.reply hrunner _
      | some handle =>
          have hacted : ((machine.record (.began (.act slot action))).act handle action).Unnumbered :=
            hbegan.record hrunner
          exact hacted.reply hrunner _
  | replaceInventory inventory => exact hbegan.record hrunner
  | readSettings => exact hbegan.reply hrunner _
  | readRegistrations => exact hbegan.reply hrunner _
  | readApp => exact hbegan.reply hrunner _
  | idle => exact hbegan.reply hrunner _

theorem Unnumbered.present (h : machine.Unnumbered) (packet : Packet) (left : Nat) :
    (machine.present packet left).Unnumbered := by
  have hshown : (machine.record (.presented packet)).Unnumbered := h.record rfl
  simp only [Machine.present, takeIn]
  split
  · exact hshown
  · cases Arrival.ofFrame? packet.frame packet.point with
    | none => exact hshown
    | some arrival => exact hshown.record rfl

theorem number?_of_mem_closing (hrunner : machine.runner? = none) {delivery : Delivery} {event : Event}
    (h : event ∈ machine.closing delivery) : event.number? = none := by
  rcases List.mem_append.mp h with h | h
  · obtain ⟨answer, -, rfl⟩ := Option.map_eq_some_iff.mp (Option.mem_toList.mp h)
    exact hrunner
  · rcases List.mem_cons.mp h with rfl | h
    · rfl
    · split at h
      · rw [List.mem_singleton.mp h]
        rfl
      · exact absurd h List.not_mem_nil

/-- What tells of no invocation keeps the invocations as they are. -/
theorem Fresh.extend {after : Machine} {added : List Event} (h : machine.Fresh)
    (hhistory : after.history = added ++ machine.history)
    (hadded : ∀ event ∈ added, event.number? = none)
    (hinvocations : machine.invocations ≤ after.invocations) :
    after.Fresh ∧
      Events.invocations after.history.reverse = Events.invocations machine.history.reverse := by
  constructor
  · intro event hmem number hnumber
    rw [hhistory] at hmem
    rcases List.mem_append.mp hmem with hnew | hold
    · rw [hadded event hnew] at hnumber
      cases hnumber
    · exact Nat.lt_of_lt_of_le (h event hold number hnumber) hinvocations
  · have hadded : ∀ event ∈ added.reverse, event.number? = none := fun event hmem =>
      hadded event (List.mem_reverse.mp hmem)
    have hold : ∀ event ∈ machine.history.reverse, ∀ given, event.number? = some given →
        given < machine.invocations := fun event hmem => h event (List.mem_reverse.mp hmem)
    have hnew : ∀ event ∈ added.reverse, ∀ given, event.number? = some given →
        machine.invocations ≤ given := by
      intro event hmem given hgiven
      rw [hadded event hmem] at hgiven
      cases hgiven
    rw [hhistory, List.reverse_append, Events.invocations_append hold hnew,
      Events.invocations_eq_nil hadded, List.append_nil]

end Adding

end Machine

end Neighbours
