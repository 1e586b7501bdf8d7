import Neighbours.Proofs.Outline
import Neighbours.Report

/-! A run without faults. Let every handler that fails or panics return as if nothing had happened. The
run goes the same way, step by step: a fault leaves its entry in the log and is counted, and nothing
else looks at how a handler has ended. -/

namespace Neighbours

/-- The same handlers, but each returns normally where it would fail or panic. -/
def Handlers.calm (handlers : Handlers) : Handlers := fun number handler arrival =>
  { handlers number handler arrival with ending := .normal }

/-- What an event is without faults. -/
def Event.calm? : Event → Option Event
  | .logged entry => if entry.isError then none else some (.logged entry)
  | .ended number registration _ => some (.ended number registration .normal)
  | event => some event

def Stats.calm (stats : Stats) : Stats := { stats with faults := 0 }

def Engine.calm (engine : Engine) : Engine := { engine with stats := engine.stats.calm }

def Task.calm : Task → Task
  | .running ⟨number, registration, handle, script⟩ =>
    .running ⟨number, registration, handle, { script with ending := .normal }⟩
  | task => task

theorem Engine.run_calm (engine : Engine) (command : Command) :
    engine.calm.run command =
      { engine.run command with engine := (engine.run command).engine.calm } := by
  rw [calm, run_withStats, calm, stats_run]

theorem Action.perform_calm (action : Action) (inventory : Inventory) (arrival : Arrival)
    (stats : Stats) :
    action.perform inventory arrival stats.calm =
      ⟨(action.perform inventory arrival stats).stats.calm,
        (action.perform inventory arrival stats).sent⟩ := by
  suffices hfold : ∀ (emissions : List Emission) (stats : Stats) (sent : List Emission),
      emissions.foldl (Transmission.attempt inventory) ⟨stats.calm, sent⟩ =
        ⟨(emissions.foldl (Transmission.attempt inventory) ⟨stats, sent⟩).stats.calm,
          (emissions.foldl (Transmission.attempt inventory) ⟨stats, sent⟩).sent⟩ from
    hfold _ stats []
  intro emissions
  induction emissions with
  | nil => exact fun _ _ => rfl
  | cons emission rest ih =>
      intro stats sent
      rw [List.foldl_cons, List.foldl_cons, Transmission.attempt, Transmission.attempt]
      split
      · exact ih stats.countEmitted _
      · exact ih stats.countGuarded _

namespace Machine

def calm (machine : Machine) : Machine :=
  { machine with
    engine := machine.engine.calm
    tasks := machine.tasks.map Task.calm
    history := machine.history.filterMap Event.calm? }

section Blocks

variable (machine : Machine)

theorem runner?_calm : machine.calm.runner? = machine.runner? := by
  have htasks : ∀ tasks : List Task,
      { machine with tasks := tasks.map Task.calm }.runner? =
        { machine with tasks := tasks }.runner? := by
    intro tasks
    induction tasks with
    | nil => rfl
    | cons task tasks ih =>
        cases task with
        | running invocation => rfl
        | presenting packet left => exact ih
        | delivering delivery => exact ih
  exact htasks machine.tasks

theorem calm_record {event after : Event} (h : event.calm? = some after) :
    (machine.record event).calm = machine.calm.record after := by
  simp only [calm, record, List.filterMap_cons_some h]

theorem calm_withTasks (tasks : List Task) :
    { machine with tasks := tasks }.calm =
      { machine.calm with tasks := tasks.map Task.calm } := rfl

theorem calm_reply (answer : Answer) :
    (machine.reply answer).calm = machine.calm.reply answer := by
  rw [reply, calm_record machine rfl, reply, runner?_calm]

theorem calm_act (handle : Handle) (action : Action) :
    (machine.act handle action).calm = machine.calm.act handle action := by
  have hstats : machine.calm.engine.stats = machine.engine.stats.calm := rfl
  have hinventory : machine.calm.inventory = machine.inventory := rfl
  rw [act, calm_record _ rfl]
  simp only [act, hstats, hinventory, Action.perform_calm, runner?_calm]
  rfl

theorem calm_takeIn (frame : Bytes) (point : Point) (cause : Cause) :
    machine.calm.takeIn frame point cause =
      ((machine.takeIn frame point cause).1.calm, (machine.takeIn frame point cause).2) := by
  simp only [takeIn]
  cases Arrival.ofFrame? frame point <;> rfl

theorem calm_begin (operation : Operation) :
    (machine.begin operation).calm = machine.calm.begin operation := by
  have hbegan : (machine.record (.began operation)).calm =
      machine.calm.record (.began operation) := machine.calm_record rfl
  cases operation with
  | command command =>
      have hengine : (machine.calm.record (.began (.command command))).engine =
          machine.engine.calm := rfl
      simp only [begin, calm_reply, hengine, Engine.run_calm]
      rfl
  | receive frame point =>
      have htaken := calm_takeIn (machine.record (.began (.receive frame point))) frame point
        .received
      rw [hbegan] at htaken
      simp only [begin]
      rw [htaken]
      rcases (machine.record (.began (.receive frame point))).takeIn frame point .received with
        ⟨taken, received⟩
      cases received with
      | true => rfl
      | false => exact taken.calm_reply _
  | present packet times => rfl
  | dispatch arrival => rfl
  | act slot action =>
      have hkept : (machine.record (.began (.act slot action))).kept = machine.kept := rfl
      have hkeptCalm : (machine.calm.record (.began (.act slot action))).kept = machine.kept := rfl
      simp only [begin, hkept, hkeptCalm]
      cases machine.kept.lookup slot with
      | none => rw [calm_reply, hbegan]
      | some handle => rw [calm_reply, calm_act, hbegan]
  | replaceInventory inventory => exact calm_reply _ _
  | readSettings => exact calm_reply _ _
  | readRegistrations => exact calm_reply _ _
  | readApp => exact calm_reply _ _
  | idle => exact calm_reply _ _

theorem calm_present (packet : Packet) (left : Nat) :
    (machine.present packet left).calm = machine.calm.present packet left := by
  simp only [present]
  split
  · rfl
  · exact (congrArg Prod.fst (calm_takeIn _ _ _ _)).symm

theorem calm_blockPresented : machine.blockPresented.calm = machine.calm.blockPresented := by
  unfold blockPresented
  cases htasks : machine.tasks with
  | nil => simp only [calm, htasks, List.map_nil]
  | cons task tasks =>
      cases task <;> simp only [calm, htasks, List.map_cons, Task.calm]

theorem calm_conclude (delivery : Delivery) :
    (machine.conclude delivery).calm = machine.calm.conclude delivery := by
  have hlogged : (if machine.engine.warnsDuplicates &&
          decide (1 < machine.emissions.getD delivery.handle.message 0) then
        machine.log (.duplicates delivery.handle.arrival
          (machine.emissions.getD delivery.handle.message 0))
      else machine).calm =
      if machine.calm.engine.warnsDuplicates &&
          decide (1 < machine.calm.emissions.getD delivery.handle.message 0) then
        machine.calm.log (.duplicates delivery.handle.arrival
          (machine.calm.emissions.getD delivery.handle.message 0))
      else machine.calm := by
    rw [apply_ite Machine.calm]
    rfl
  simp only [conclude]
  rw [← hlogged]
  cases delivery.cause with
  | received => exact calm_reply _ _
  | presented => exact calm_blockPresented _
  | dispatched => exact calm_reply _ _

theorem calm_finish (invocation : Invocation) :
    (machine.finish invocation).calm = machine.calm.finish
      { invocation with script := { invocation.script with ending := .normal } } := by
  simp only [finish]
  cases invocation.script.ending <;> rfl

variable (handlers : Handlers)

theorem calm_perform (handle : Handle) (step : Step) :
    (machine.perform handle step).calm = machine.calm.perform handle step := by
  cases step with
  | act action => exact machine.calm_act handle action
  | keep slot => rfl
  | perform operation => exact machine.calm_begin operation

/-- Without faults every step does the same. -/
theorem calm_step : (step handlers machine).calm = step handlers.calm machine.calm := by
  obtain ⟨engine, inventory, kept, emissions, invocations, tasks, agenda, history⟩ := machine
  cases tasks with
  | nil =>
      cases agenda with
      | nil => rfl
      | cons operation agenda =>
          exact calm_begin ⟨engine, inventory, kept, emissions, invocations, [], agenda, history⟩
            operation
  | cons task tasks =>
      cases task with
      | presenting packet left =>
          cases left with
          | zero =>
              exact calm_reply
                ⟨engine, inventory, kept, emissions, invocations, tasks, agenda, history⟩ _
          | succ left =>
              exact calm_present
                ⟨engine, inventory, kept, emissions, invocations, tasks, agenda, history⟩ packet left
      | delivering delivery =>
          obtain ⟨handle, cause, waiting, invoked⟩ := delivery
          cases waiting with
          | nil =>
              exact calm_conclude
                ⟨engine, inventory, kept, emissions, invocations, tasks, agenda, history⟩ _
          | cons registration waiting => rfl
      | running invocation =>
          obtain ⟨number, registration, handle, ⟨steps, ending⟩⟩ := invocation
          cases steps with
          | nil =>
              exact calm_finish
                ⟨engine, inventory, kept, emissions, invocations, tasks, agenda, history⟩ _
          | cons first steps =>
              exact calm_perform
                ⟨engine, inventory, kept, emissions, invocations,
                  .running ⟨number, registration, handle, ⟨steps, ending⟩⟩ :: tasks, agenda, history⟩
                handle first

end Blocks

/-- Whoever comes next, a run and the run without faults go the same way. -/
theorem calm_runIn (order : Order) (handlers : Handlers) (n : Nat) (machine : Machine) :
    (runIn order handlers n machine).calm = runIn order handlers.calm n machine.calm := by
  have harrange : ∀ machine : Machine, (machine.arrange order).calm = machine.calm.arrange order := by
    intro machine
    have htasks : (order.arrangeTasks machine.tasks).map Task.calm =
        order.arrangeTasks (machine.tasks.map Task.calm) := by
      cases machine.tasks with
      | nil => rfl
      | cons task tasks => cases task <;> rfl
    rw [arrange, calm_withTasks, htasks]
    rfl
  induction n generalizing machine with
  | zero => rfl
  | succ n ih =>
      rw [runIn, ih, stepIn, harrange, calm_step]
      rfl

end Machine

end Neighbours
