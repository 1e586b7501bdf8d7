import Neighbours.Proofs.Ledger
import Neighbours.Proofs.Past

/-! Commands in one row. However deep in nested dispatches a command is asked for, it is carried out at
once, on the engine as it is at that moment, and packets leave everything but the counters of the engine
alone. So the commands of a run do what they do when they are asked for one after the other from outside.
-/

namespace Neighbours

/-- The command that is asked for. -/
def Event.asked? : Event → Option Command
  | .began (.command command) => some command
  | _ => none

/-- What is answered to a command. -/
def Event.verdict? : Event → Option CommandAnswer
  | .answered _ (.command answer) => some answer
  | _ => none

/-- The commands asked for, in their order. -/
def Events.asked (events : List Event) : List Command :=
  events.filterMap Event.asked?

/-- What was answered to commands, in the order of the answers. -/
def Events.verdicts (events : List Event) : List CommandAnswer :=
  events.filterMap Event.verdict?

namespace Machine

/-- Every command that was asked for has been performed and answered. -/
def Settled (machine : Machine) : Prop :=
  let performed := machine.history.filterMap Event.performed?
  Events.asked machine.history = performed.map Performed.command ∧
    Events.verdicts machine.history = performed.map Performed.answer

namespace Settled

variable {machine : Machine} (h : machine.Settled)
include h

theorem takeIn (frame : Bytes) (point : Point) (cause : Cause) :
    (machine.takeIn frame point cause).1.Settled := by
  simp only [Machine.takeIn]
  cases Arrival.ofFrame? frame point with
  | none => exact h
  | some arrival => exact h

theorem begin (operation : Operation) : (machine.begin operation).Settled := by
  cases operation with
  | command command =>
      exact ⟨congrArg (command :: ·) h.1,
        congrArg ((machine.engine.run command).answer :: ·) h.2⟩
  | receive frame point =>
      have hbegan : (machine.record (.began (.receive frame point))).Settled := h
      have htaken := hbegan.takeIn frame point .received
      simp only [Machine.begin]
      split
      · next heq => rwa [heq] at htaken
      · next heq =>
          rw [heq] at htaken
          exact htaken
  | act slot action =>
      simp only [Machine.begin]
      split
      · exact h
      · exact h
  | _ => exact h

theorem present (packet : Packet) (left : Nat) : (machine.present packet left).Settled := by
  have hshown : ((machine.record (.presented packet)).push (.presenting packet left)).Settled := h
  simp only [Machine.present]
  split
  · exact hshown
  · exact hshown.takeIn _ _ _

theorem conclude (delivery : Delivery) : (machine.conclude delivery).Settled := by
  obtain ⟨handle, cause, waiting, invoked⟩ := delivery
  rw [conclude_eq]
  simp only [closing]
  cases machine.engine.warnsDuplicates &&
    decide (1 < machine.emissions.getD handle.message 0) with
  | false => cases cause <;> exact h
  | true => cases cause <;> exact h

theorem finish (invocation : Invocation) : (machine.finish invocation).Settled := by
  simp only [Machine.finish]
  cases invocation.script.ending <;> exact h

theorem step (handlers : Handlers) : (step handlers machine).Settled := by
  unfold Machine.step
  split
  · split
    · exact h
    · next operation agenda _ => exact @begin { machine with agenda := agenda } h operation
  · exact h
  · next packet left tasks _ => exact @present { machine with tasks := tasks } h packet left
  · next delivery tasks _ =>
      split
      · exact @conclude { machine with tasks := tasks } h delivery
      · exact h
  · next invocation tasks _ =>
      split
      · exact @finish { machine with tasks := tasks } h invocation
      · next first steps _ =>
          cases first with
          | act action => exact h
          | keep slot => exact h
          | perform operation =>
              exact @begin { machine with tasks := .running { invocation with
                script := { invocation.script with steps := steps } } :: tasks } h operation

theorem asked_eq : Events.asked machine.history.reverse = machine.performed.map Performed.command := by
  rw [performed, Events.asked, List.filterMap_reverse, List.filterMap_reverse, List.map_reverse]
  exact congrArg List.reverse h.1

theorem verdicts_eq :
    Events.verdicts machine.history.reverse = machine.performed.map Performed.answer := by
  rw [performed, Events.verdicts, List.filterMap_reverse, List.filterMap_reverse, List.map_reverse]
  exact congrArg List.reverse h.2

end Settled

variable (order : Order) (handlers : Handlers)

theorem settled_runIn (app : App) (settings : Settings) (inventory : Inventory)
    (agenda : List Operation) (n : Nat) :
    (runIn order handlers n (start app settings inventory agenda)).Settled :=
  runIn_preserve order handlers (fun _ h => h.step handlers) n ⟨rfl, rfl⟩

/-- The machine has done nothing but the commands of another, and has others still to do. -/
structure Replays (machine : Machine) (commands : List Command) (flat : Machine) : Prop where
  tasks : flat.tasks = []
  agenda : flat.agenda = commands.map Operation.command
  engine : flat.engine = { machine.engine with stats := .zero }
  performed : flat.performed = machine.performed

namespace Replays

variable {machine after flat : Machine} {commands : List Command}

theorem quiet (h : machine.Replays commands flat) (hquiet : Quiet machine after) :
    after.Replays commands flat where
  tasks := h.tasks
  agenda := h.agenda
  engine := by rw [h.engine, hquiet.engine]
  performed := h.performed.trans hquiet.performed.symm

/-- A command does the same to both machines. -/
theorem command {command : Command} (h : machine.Replays (command :: commands) flat)
    (hcommanded : Commanded command machine after) :
    after.Replays commands (stepIn order handlers flat) := by
  have hrun : flat.engine.run command = { machine.engine.run command with
      engine := { (machine.engine.run command).engine with stats := .zero } } := by
    rw [h.engine]
    exact machine.engine.run_withStats .zero command
  have hflat := begin_command { flat with agenda := commands.map Operation.command } command
  rw [stepIn_command order handlers h.tasks h.agenda]
  refine ⟨h.tasks, rfl, ?_, ?_⟩
  · rw [hflat.engine, hcommanded.engine]
    exact congrArg CommandEffect.engine hrun
  · rw [hflat.performed, hcommanded.performed, ← h.performed, hrun]
    rfl

end Replays

/-- The commands of a run, asked for from outside, do the same, whatever the handlers would do. -/
theorem replays_runIn (others : Handlers) (app : App) (settings : Settings) (inventory : Inventory)
    (agenda : List Operation) (n : Nat) (rest : List Command) :
    let machine := runIn order handlers n (start app settings inventory agenda)
    let commands := machine.performed.map Performed.command ++ rest
    machine.Replays rest (runIn order others machine.performed.length
      (start app settings inventory (commands.map .command))) := by
  -- For all commands that are still to come: a command is taken from their front when it is performed.
  induction n generalizing rest with
  | zero => exact ⟨rfl, rfl, rfl, rfl⟩
  | succ n ih =>
      intro machine
      let before := runIn order handlers n (start app settings inventory agenda)
      have hmachine : machine = (step handlers before).arrange order :=
        runIn_succ order handlers n _
      rcases step_cases handlers before with hquiet | ⟨command, hcommanded⟩
      · have hafter : Quiet before machine := hmachine ▸ ⟨hquiet.engine, hquiet.performed⟩
        rw [hafter.performed]
        exact (ih rest).quiet hafter
      · have hafter : Commanded command before machine :=
          hmachine ▸ ⟨hcommanded.engine, hcommanded.performed⟩
        rw [hafter.performed, List.length_append, List.map_append, List.append_assoc]
        show machine.Replays rest (runIn order others (before.performed.length + 1) _)
        rw [runIn_succ]
        exact (ih (command :: rest)).command order others hafter

/-- Commands linearise. However deep in nested dispatches, by whichever handlers and with whatever
faults its commands were asked for, a run has the registrations, the settings, the requested classes and
the calls to the transport that these commands lead to when they are asked for from outside, one after
the other in the order in which they were asked for, with no packet between them, and each of them is
answered the same. -/
theorem commands_linearise (others : Handlers) (app : App) (settings : Settings)
    (inventory : Inventory) (agenda : List Operation) (n : Nat) :
    let machine := runIn order handlers n (start app settings inventory agenda)
    let commands := Events.asked machine.history.reverse
    let flat := runIn order others commands.length
      (start app settings inventory (commands.map .command))
    flat.tasks = [] ∧ flat.agenda = [] ∧
      flat.engine = { machine.engine with stats := .zero } ∧
      Events.calls flat.history.reverse = Events.calls machine.history.reverse ∧
      Events.asked flat.history.reverse = commands ∧
      Events.verdicts flat.history.reverse = Events.verdicts machine.history.reverse ∧
      flat.performed = machine.performed := by
  intro machine commands flat
  have hsettled : machine.Settled := settled_runIn order handlers app settings inventory agenda n
  have hcommands : commands = machine.performed.map Performed.command := hsettled.asked_eq
  have hflat : flat.Settled := settled_runIn order others app settings inventory _ _
  have hlength : commands.length = machine.performed.length := by
    rw [hcommands, List.length_map]
  have hreplays : machine.Replays [] flat := by
    show machine.Replays [] (runIn order others commands.length _)
    rw [hlength, hcommands, ← List.append_nil (machine.performed.map Performed.command)]
    exact replays_runIn order handlers others app settings inventory agenda n []
  refine ⟨hreplays.tasks, hreplays.agenda, hreplays.engine, ?_, ?_, ?_, hreplays.performed⟩
  · rw [← map_call_issues, ← map_call_issues, issues, issues, hreplays.performed]
  · rw [hflat.asked_eq, hreplays.performed, hcommands]
  · rw [hflat.verdicts_eq, hreplays.performed, hsettled.verdicts_eq]

end Machine

end Neighbours
