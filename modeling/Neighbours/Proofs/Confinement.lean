import Neighbours.Proofs.Reports
import Neighbours.Proofs.Veil

/-! Settings stay off the packet path. Two runs are compared that differ in nothing but settings: those
they start with and those that their operations and handlers ask for. Handlers see and send the same in
both, and what is registered and counted is the same. Where even the settings differ in nothing but the
warning of duplicates, what is requested from the transport is the same too. -/

namespace Neighbours

/-- What a run is given, apart from its surroundings. -/
structure Scenario where
  settings : Settings
  handlers : Handlers
  agenda : List Operation

def Scenario.run (scenario : Scenario) (order : Order) (app : App) (inventory : Inventory) (n : Nat) :
    Machine :=
  Machine.runIn order scenario.handlers n
    (Machine.start app scenario.settings inventory scenario.agenda)

namespace Veil

variable (veil : Veil)

def scenario (scenario : Scenario) : Scenario :=
  ⟨veil.settings scenario.settings, veil.handlers scenario.handlers,
    scenario.agenda.map veil.operation⟩

def report (report : InvocationReport) : InvocationReport :=
  { report with answers := report.answers.map veil.answer }

theorem machine_arrange (order : Order) (machine : Machine) :
    veil.machine (machine.arrange order) = (veil.machine machine).arrange order := by
  have htasks : (order.arrangeTasks machine.tasks).map veil.task =
      order.arrangeTasks (machine.tasks.map veil.task) := by
    cases machine.tasks with
    | nil => rfl
    | cons task tasks => cases task <;> rfl
  simp only [Veil.machine, Machine.arrange, htasks]

/-- Two runs that look the same under the veil go on looking the same. -/
theorem machine_runIn {veil : Veil} (order : Order) {handlers others : Handlers}
    (hhandlers : veil.handlers handlers = veil.handlers others) {machine other : Machine}
    (hmachine : machine.engine.Consistent) (hother : other.engine.Consistent)
    (h : veil.machine machine = veil.machine other) (n : Nat) :
    veil.machine (Machine.runIn order handlers n machine) =
      veil.machine (Machine.runIn order others n other) := by
  induction n generalizing machine other with
  | zero => exact h
  | succ n ih =>
      refine ih (Machine.consistent_step handlers machine hmachine)
        (Machine.consistent_step others other hother) ?_
      rw [Machine.stepIn, Machine.stepIn, machine_arrange, machine_arrange, machine_step veil hmachine,
        machine_step veil hother, hhandlers, h]

end Veil

namespace Events

variable (veil : Veil)

theorem calls_warning (events : List Event) :
    calls (events.filterMap Veil.warning.event?) = calls events := by
  apply flatMap_filterMap
  intro event
  cases event with
  | logged entry => cases entry <;> rfl
  | _ => rfl

theorem sentBy_veil (runner : Option Nat) (events : List Event) :
    sentBy runner (events.filterMap veil.event?) = sentBy runner events := by
  apply flatMap_filterMap
  intro event
  cases event with
  | logged entry => cases entry <;> rfl
  | _ => rfl

theorem answersTo_veil (runner : Option Nat) (events : List Event) :
    answersTo runner (events.filterMap veil.event?) = (answersTo runner events).map veil.answer := by
  rw [answersTo, answersTo, List.filterMap_filterMap, List.map_filterMap]
  apply List.filterMap_congr
  intro event _
  cases event with
  | logged entry => cases entry <;> rfl
  | answered other answer =>
      show (if other = runner then _ else _) = Option.map veil.answer (if other = runner then _ else _)
      split <;> rfl
  | _ => rfl

theorem invocations_veil (events : List Event) :
    invocations (events.filterMap veil.event?) = (invocations events).map veil.report := by
  unfold invocations
  simp only [sentBy_veil, answersTo_veil]
  rw [List.filterMap_filterMap, List.map_filterMap]
  apply List.filterMap_congr
  intro event _
  cases event with
  | logged entry => cases entry <;> rfl
  | _ => rfl

theorem log_veil (events : List Event) :
    log (events.filterMap veil.event?) = (log events).filter (·.isError) := by
  rw [log, log, List.filterMap_filterMap, List.filter_filterMap]
  apply List.filterMap_congr
  intro event _
  cases event with
  | logged entry => cases entry <;> rfl
  | _ => rfl

end Events

namespace Machine

/-- Settings stay off the packet path. After any number of steps, two runs that differ in settings only
have come equally far, with the same registrations and the same counters; the same handlers were invoked
with the same messages and sent the same, and everybody was answered the same, but for settings and
whether settings were taken over. If the settings differ in nothing but the warning of duplicates, then
moreover the transport was called the same, and all answers are the same but for that flag. -/
theorem settings_confined (order : Order) (app : App) (inventory : Inventory) {given other : Scenario}
    (hgiven : Veil.whole.scenario given = Veil.whole.scenario other) (n : Nat) :
    let left := given.run order app inventory n
    let right := other.run order app inventory n
    (right.agenda.length = left.agenda.length ∧ right.tasks.length = left.tasks.length) ∧
      right.engine.registry = left.engine.registry ∧
      right.engine.stats = left.engine.stats ∧
      (Events.invocations right.history.reverse).map Veil.whole.report =
        (Events.invocations left.history.reverse).map Veil.whole.report ∧
      (∀ runner, Events.sentBy runner right.history.reverse =
        Events.sentBy runner left.history.reverse) ∧
      (∀ runner, (Events.answersTo runner right.history.reverse).map Veil.whole.answer =
        (Events.answersTo runner left.history.reverse).map Veil.whole.answer) ∧
      (Veil.warning.scenario given = Veil.warning.scenario other →
        Events.calls right.history.reverse = Events.calls left.history.reverse ∧
          right.engine.interception.requested = left.engine.interception.requested ∧
          (∀ runner, (Events.answersTo runner right.history.reverse).map Veil.warning.answer =
            (Events.answersTo runner left.history.reverse).map Veil.warning.answer) ∧
          Veil.warning.settings right.engine.settings = Veil.warning.settings left.engine.settings ∧
          (Events.log right.history.reverse).filter (·.isError) =
            (Events.log left.history.reverse).filter (·.isError) ∧
          right.history.filterMap Veil.warning.event? =
            left.history.filterMap Veil.warning.event?) := by
  intro left right
  have hrun : ∀ veil : Veil, veil.scenario given = veil.scenario other →
      veil.machine left = veil.machine right := by
    intro veil hscenario
    obtain ⟨hsettings, hhandlers, hagenda⟩ := Scenario.mk.inj hscenario
    refine Veil.machine_runIn order hhandlers (Engine.consistent_start app given.settings)
      (Engine.consistent_start app other.settings) ?_ n
    simp only [Veil.machine, start, Veil.engine, Engine.start, hsettings, hagenda]
  have hevents : ∀ veil : Veil, veil.machine left = veil.machine right →
      right.history.reverse.filterMap veil.event? = left.history.reverse.filterMap veil.event? := by
    intro veil hmachine
    rw [List.filterMap_reverse, List.filterMap_reverse]
    exact congrArg List.reverse (congrArg Machine.history hmachine).symm
  have hwhole := hrun .whole hgiven
  have hall := hevents .whole hwhole
  refine ⟨⟨?_, ?_⟩, ?_, ?_, ?_, ?_, ?_, ?_⟩
  · have hlength := congrArg (fun machine : Machine => machine.agenda.length) hwhole
    simp only [Veil.machine, List.length_map] at hlength
    exact hlength.symm
  · have hlength := congrArg (fun machine : Machine => machine.tasks.length) hwhole
    simp only [Veil.machine, List.length_map] at hlength
    exact hlength.symm
  · exact (congrArg (fun machine : Machine => machine.engine.registry) hwhole).symm
  · exact (congrArg (fun machine : Machine => machine.engine.stats) hwhole).symm
  · rw [← Events.invocations_veil, ← Events.invocations_veil, hall]
  · intro runner
    rw [← Events.sentBy_veil .whole, hall, Events.sentBy_veil]
  · intro runner
    rw [← Events.answersTo_veil, ← Events.answersTo_veil, hall]
  · intro hscenario
    have hwarning := hrun .warning hscenario
    have hmost := hevents .warning hwarning
    refine ⟨?_, ?_, ?_, ?_, ?_, ?_⟩
    · rw [← Events.calls_warning, hmost, Events.calls_warning]
    · exact (congrArg (fun machine : Machine => machine.engine.interception.requested) hwarning).symm
    · intro runner
      rw [← Events.answersTo_veil, ← Events.answersTo_veil, hmost]
    · exact (congrArg (fun machine : Machine => machine.engine.settings) hwarning).symm
    · rw [← Events.log_veil .warning, ← Events.log_veil .warning, hmost]
    · exact (congrArg Machine.history hwarning).symm

end Machine

/-! Two handlers answer the same request, and each takes settings over that ask for the warning of
duplicates in one run and not in the other. -/

namespace TwoAnswers

open Sample

def scenario (warnDuplicates : Bool) : Scenario where
  settings := ⟨false, 40000, warnDuplicates⟩
  handlers := fun _ _ _ =>
    ⟨[.act (.answer .zero), .perform (.command (.configure ⟨true, 7, warnDuplicates⟩))], .normal⟩
  agenda :=
    [.command (.insert point (registration "first")),
      .command (.insert point (registration "second")), .dispatch arrival]

def run (warnDuplicates : Bool) : Machine :=
  (scenario warnDuplicates).run .asRegistered app inventory 12

theorem confined_warning :
    Veil.whole.scenario (scenario true) = Veil.whole.scenario (scenario false) ∧
      Veil.warning.scenario (scenario true) = Veil.warning.scenario (scenario false) ∧
      Events.log (run true).history.reverse = [.duplicates arrival 2] ∧
      Events.log (run false).history.reverse = [] ∧
      (run false).engine.stats = (run true).engine.stats ∧
      Events.calls (run false).history.reverse = Events.calls (run true).history.reverse ∧
      (run false).engine.interception.requested = (run true).engine.interception.requested := by
  have hwhole : Veil.whole.scenario (scenario true) = Veil.whole.scenario (scenario false) := rfl
  have hwarning : Veil.warning.scenario (scenario true) = Veil.warning.scenario (scenario false) :=
    rfl
  obtain ⟨-, -, hstats, -, -, -, hrest⟩ :=
    Machine.settings_confined .asRegistered app inventory hwhole 12
  obtain ⟨hcalls, hrequested, -⟩ := hrest hwarning
  exact ⟨hwhole, hwarning, rfl, rfl, hstats, hcalls, hrequested⟩

end TwoAnswers

end Neighbours
