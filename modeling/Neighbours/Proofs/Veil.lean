import Neighbours.Proofs.Consistency
import Neighbours.Proofs.Outline

/-! Runs with the settings out of sight. A veil hides the settings of the engine, those that handlers
and the agenda ask for, and what comes of them. Two runs that look the same under the veil go on looking
the same, step by step: what a step does to the rest of the machine does not hang on what is hidden. -/

namespace Neighbours

/-- How much of the settings is hidden: all of them, or whether duplicates are warned of. -/
inductive Veil where
  | whole
  | warning
deriving DecidableEq

/-- A machine after a command that had a given effect. -/
def Machine.afterCommand (machine : Machine) (command : Command) (effect : CommandEffect) : Machine :=
  ({ machine.record (.began (.command command)) with engine := effect.engine }.record
    (.commanded command effect.calls effect.answer)).reply (.command effect.answer)

namespace Veil

section Hidden

variable (veil : Veil)

def settings : Veil → Settings → Settings
  | whole, _ => .default
  | warning, settings => { settings with warnDuplicates := false }

/-- What is requested follows the settings, except for the warning. -/
def interception : Veil → Interception → Interception
  | whole, _ => .idle
  | warning, interception => interception

def calls : Veil → List Call → List Call
  | whole, _ => []
  | warning, calls => calls

/-- Whether settings were taken over is hidden with them. -/
def commandAnswer : Veil → CommandAnswer → CommandAnswer
  | whole, .refused _ => .accepted
  | _, answer => answer

def command : Command → Command
  | .configure settings => .configure (veil.settings settings)
  | command => command

def operation : Operation → Operation
  | .command command => .command (veil.command command)
  | operation => operation

def answer : Answer → Answer
  | .command answer => .command (veil.commandAnswer answer)
  | .settings settings => .settings (veil.settings settings)
  | answer => answer

def step : Step → Step
  | .perform operation => .perform (veil.operation operation)
  | step => step

def script (script : Script) : Script :=
  { script with steps := script.steps.map veil.step }

def handlers (handlers : Handlers) : Handlers := fun number handler arrival =>
  veil.script (handlers number handler arrival)

def task : Task → Task
  | .running invocation => .running { invocation with script := veil.script invocation.script }
  | task => task

/-- What is left of an event; a warning of duplicates is hidden altogether. -/
def event? : Event → Option Event
  | .began operation => some (.began (veil.operation operation))
  | .commanded command calls answer =>
    some (.commanded (veil.command command) (veil.calls calls) (veil.commandAnswer answer))
  | .answered runner answer => some (.answered runner (veil.answer answer))
  | .logged entry => if entry.isError then some (.logged entry) else none
  | event => some event

def engine (engine : Engine) : Engine :=
  { engine with
    settings := veil.settings engine.settings
    warnsDuplicates := false
    interception := veil.interception engine.interception }

def effect (effect : CommandEffect) : CommandEffect :=
  ⟨veil.calls effect.calls, veil.engine effect.engine, veil.commandAnswer effect.answer⟩

def machine (machine : Machine) : Machine :=
  { machine with
    engine := veil.engine machine.engine
    tasks := machine.tasks.map veil.task
    agenda := machine.agenda.map veil.operation
    history := machine.history.filterMap veil.event? }

end Hidden

/-! What is hidden stays hidden. -/

section Twice

variable (veil : Veil)

@[simp]
theorem settings_settings (settings : Settings) :
    veil.settings (veil.settings settings) = veil.settings settings := by
  cases veil <;> rfl

@[simp]
theorem interception_interception (interception : Interception) :
    veil.interception (veil.interception interception) = veil.interception interception := by
  cases veil <;> rfl

@[simp]
theorem calls_calls (calls : List Call) : veil.calls (veil.calls calls) = veil.calls calls := by
  cases veil <;> rfl

@[simp]
theorem commandAnswer_commandAnswer (answer : CommandAnswer) :
    veil.commandAnswer (veil.commandAnswer answer) = veil.commandAnswer answer := by
  cases veil <;> cases answer <;> rfl

@[simp]
theorem command_command (command : Command) :
    veil.command (veil.command command) = veil.command command := by
  cases command <;> simp [Veil.command]

@[simp]
theorem operation_operation (operation : Operation) :
    veil.operation (veil.operation operation) = veil.operation operation := by
  cases operation <;> simp [Veil.operation]

@[simp]
theorem answer_answer (answer : Answer) :
    veil.answer (veil.answer answer) = veil.answer answer := by
  cases answer <;> simp [Veil.answer]

@[simp]
theorem step_step (step : Step) : veil.step (veil.step step) = veil.step step := by
  cases step <;> simp [Veil.step]

@[simp]
theorem task_task (task : Task) : veil.task (veil.task task) = veil.task task := by
  cases task <;> simp [Veil.task, Veil.script]

theorem event?_of_event? {event after : Event} (h : veil.event? event = some after) :
    veil.event? after = some after := by
  cases event with
  | logged entry =>
      by_cases herror : entry.isError = true
      · rw [Veil.event?, if_pos herror] at h
        cases h
        exact if_pos herror
      · rw [Veil.event?, if_neg herror] at h
        cases h
  | _ =>
      cases h
      simp [Veil.event?]

@[simp]
theorem engine_engine (engine : Engine) : veil.engine (veil.engine engine) = veil.engine engine := by
  simp [Veil.engine]

@[simp]
theorem machine_machine (machine : Machine) :
    veil.machine (veil.machine machine) = veil.machine machine := by
  have hevents : (machine.history.filterMap veil.event?).filterMap veil.event? =
      machine.history.filterMap veil.event? := by
    rw [List.filterMap_filterMap]
    apply List.filterMap_congr
    intro event _
    cases hevent : veil.event? event with
    | none => rfl
    | some after => exact veil.event?_of_event? hevent
  simp [Veil.machine, hevents]

end Twice

/-! What a command does to the rest of an engine. -/

section Commands

variable {engine : Engine}

theorem validate_settings_warning (settings : Settings) :
    (Veil.warning.settings settings).validate = settings.validate := rfl

/-- Apart from the settings themselves a change of settings alters what is requested, nothing else. -/
theorem engine_whole_configure (engine : Engine) (settings : Settings) :
    Veil.whole.engine (engine.configure settings).2 = Veil.whole.engine engine := by
  by_cases hsame : engine.settings = settings
  · rw [← hsame, Engine.configure_self]
  · by_cases hpriority : engine.settings.priority = settings.priority
    · rw [Engine.configure_of_priority_eq hsame hpriority]
      rfl
    · rw [Engine.configure_of_priority_ne hpriority]
      rfl

theorem effect_whole_configure (engine : Engine) (settings : Settings) :
    Veil.whole.effect (engine.run (.configure settings)) =
      ⟨[], Veil.whole.engine engine, .accepted⟩ := by
  simp only [Engine.run]
  cases settings.validate with
  | error fault => rfl
  | ok _ =>
      simp only [effect, engine_whole_configure]
      rfl

theorem eq_of_warning {settings other : Settings}
    (h : Veil.warning.settings settings = Veil.warning.settings other) :
    settings.discovery = other.discovery ∧ settings.priority = other.priority := by
  obtain ⟨hdiscovery, hpriority, -⟩ := Settings.mk.inj h
  exact ⟨hdiscovery, hpriority⟩

/-- Where nothing but the warning changes, interception is in line already and takes no calls. -/
theorem configure_of_warning_eq (h : engine.Consistent) {settings : Settings}
    (hsame : Veil.warning.settings engine.settings = Veil.warning.settings settings) :
    engine.configure settings = ([], engine.adopt settings) := by
  obtain ⟨hdiscovery, hpriority⟩ := eq_of_warning hsame
  by_cases heq : engine.settings = settings
  · subst heq
    rw [Engine.configure_self, Engine.adopt, ← h.warnsDuplicates]
  · have hdue : engine.interception = .due settings !engine.registry.isEmpty := by
      rw [h.interception, Interception.due, Interception.due, hdiscovery]
    have hcalls : engine.interception.align settings engine.app (!engine.registry.isEmpty) =
        ([], engine.interception) := by
      rw [hdue]
      simp [Interception.align, Interception.due]
    rw [Engine.configure_of_priority_eq heq hpriority]
    simp only [Engine.align, Engine.adopt, hcalls]

theorem effect_warning_configure (h : engine.Consistent) (settings : Settings) :
    Veil.warning.effect (engine.run (.configure settings)) =
      Veil.warning.effect ((Veil.warning.engine engine).run
        (.configure (Veil.warning.settings settings))) := by
  simp only [Engine.run, validate_settings_warning]
  cases settings.validate with
  | error fault => simp [effect]
  | ok _ =>
      by_cases hsame : Veil.warning.settings engine.settings = Veil.warning.settings settings
      · have hveiled : (Veil.warning.engine engine).configure (Veil.warning.settings settings) =
            ([], Veil.warning.engine engine) := if_pos hsame
        rw [configure_of_warning_eq h hsame, hveiled]
        simp only [effect, engine_engine]
        simp only [Engine.adopt, Veil.engine, hsame]
      · have hne : engine.settings ≠ settings := fun heq => hsame (congrArg _ heq)
        by_cases hpriority : engine.settings.priority = settings.priority
        · have hveiled : (Veil.warning.engine engine).configure (Veil.warning.settings settings) = _ :=
            Engine.configure_of_priority_eq hsame hpriority
          rw [Engine.configure_of_priority_eq hne hpriority, hveiled]
          rfl
        · have hveiled : (Veil.warning.engine engine).configure (Veil.warning.settings settings) = _ :=
            Engine.configure_of_priority_ne hpriority
          rw [Engine.configure_of_priority_ne hpriority, hveiled]
          rfl

/-- What a command does comes to the same under the veil, whatever is hidden. -/
theorem effect_run (veil : Veil) (h : engine.Consistent) (command : Command) :
    veil.effect (engine.run command) =
      veil.effect ((veil.engine engine).run (veil.command command)) := by
  cases command with
  | configure settings =>
      cases veil with
      | whole => rw [effect_whole_configure, command, effect_whole_configure, engine_engine]
      | warning => exact effect_warning_configure h settings
  | _ => cases veil <;> rfl

end Commands

/-! What a step does to the rest of a machine. Commands apart, every part of a step does the same to a
machine under the veil. -/

section Blocks

variable (veil : Veil) (machine : Machine)

theorem level_task (task : Task) : (veil.task task).level = task.level := by
  cases task <;> rfl

theorem runner?_machine : (veil.machine machine).runner? = machine.runner? := by
  have hlevels : (veil.machine machine).outline.levels = machine.outline.levels := by
    show (machine.tasks.map veil.task).map Task.level = machine.tasks.map Task.level
    rw [List.map_map]
    exact List.map_congr_left fun task _ => veil.level_task task
  rw [Machine.runner?_eq_runnerOf?, Machine.runner?_eq_runnerOf?, hlevels]

theorem machine_record {event after : Event} (h : veil.event? event = some after) :
    veil.machine (machine.record event) = (veil.machine machine).record after := by
  simp only [Veil.machine, Machine.record, List.filterMap_cons_some h]

theorem machine_reply (answer : Answer) :
    veil.machine (machine.reply answer) = (veil.machine machine).reply (veil.answer answer) := by
  rw [Machine.reply, machine_record veil machine rfl, Machine.reply, runner?_machine]

theorem machine_act (handle : Handle) (action : Action) :
    veil.machine (machine.act handle action) = (veil.machine machine).act handle action := by
  rw [Machine.act, machine_record veil _ rfl]
  simp only [Machine.act, runner?_machine]
  rfl

theorem machine_takeIn (frame : Bytes) (point : Point) (cause : Cause) :
    (veil.machine machine).takeIn frame point cause =
      (veil.machine (machine.takeIn frame point cause).1,
        (machine.takeIn frame point cause).2) := by
  simp only [Machine.takeIn]
  cases Arrival.ofFrame? frame point <;> rfl

theorem machine_present (packet : Packet) (left : Nat) :
    veil.machine (machine.present packet left) = (veil.machine machine).present packet left := by
  simp only [Machine.present]
  split
  · rfl
  · exact (congrArg Prod.fst (machine_takeIn veil _ _ _ _)).symm

theorem machine_blockPresented :
    veil.machine machine.blockPresented = (veil.machine machine).blockPresented := by
  unfold Machine.blockPresented
  cases htasks : machine.tasks with
  | nil => simp only [Veil.machine, htasks, List.map_nil]
  | cons task tasks =>
      cases task <;> simp only [Veil.machine, htasks, List.map_cons, Veil.task]

/-- Under the veil nobody is warned of duplicates. -/
theorem machine_conclude (delivery : Delivery) :
    veil.machine (machine.conclude delivery) = (veil.machine machine).conclude delivery := by
  have hlogged : veil.machine (if machine.engine.warnsDuplicates &&
          decide (1 < machine.emissions.getD delivery.handle.message 0) then
        machine.log (.duplicates delivery.handle.arrival
          (machine.emissions.getD delivery.handle.message 0))
      else machine) = veil.machine machine := by
    split <;> rfl
  have hsilent : (veil.machine machine).engine.warnsDuplicates = false := rfl
  simp only [Machine.conclude, hsilent, Bool.false_and, Bool.false_eq_true, if_false]
  rw [← hlogged]
  cases delivery.cause with
  | received => exact machine_reply veil _ _
  | presented => exact machine_blockPresented veil _
  | dispatched => exact machine_reply veil _ _

theorem machine_finish (invocation : Invocation) :
    veil.machine (machine.finish invocation) = (veil.machine machine).finish
      { invocation with script := veil.script invocation.script } := by
  simp only [Machine.finish, Veil.script]
  cases invocation.script.ending <;> rfl

variable {machine}

/-- What comes to a veiled machine comes to the same under the veil. -/
theorem machine_eq_machine {after veiled : Machine} (h : veil.machine after = veiled) :
    veil.machine after = veil.machine veiled := by
  rw [← h, machine_machine]

theorem machine_afterCommand (command : Command) (effect : CommandEffect) :
    veil.machine (machine.afterCommand command effect) =
      (veil.machine machine).afterCommand (veil.command command) (veil.effect effect) := by
  rw [Machine.afterCommand, machine_reply]
  rfl

theorem machine_command (h : machine.engine.Consistent) (command : Command) :
    veil.machine (machine.begin (.command command)) =
      veil.machine ((veil.machine machine).begin (.command (veil.command command))) := by
  have hbegin : ∀ (machine : Machine) command, machine.begin (.command command) =
      machine.afterCommand command (machine.engine.run command) := fun _ _ => rfl
  have heffect : veil.effect (machine.engine.run command) =
      veil.effect ((veil.machine machine).engine.run (veil.command command)) := effect_run veil h command
  rw [hbegin, hbegin, machine_afterCommand, machine_afterCommand, machine_machine, command_command,
    heffect]

theorem machine_receive (frame : Bytes) (point : Point) :
    veil.machine (machine.begin (.receive frame point)) =
      (veil.machine machine).begin (.receive frame point) := by
  have hbegan : veil.machine (machine.record (.began (.receive frame point))) =
      (veil.machine machine).record (.began (.receive frame point)) := veil.machine_record machine rfl
  have htaken := veil.machine_takeIn (machine.record (.began (.receive frame point))) frame point
    .received
  rw [hbegan] at htaken
  simp only [Machine.begin]
  rw [htaken]
  rcases (machine.record (.began (.receive frame point))).takeIn frame point .received with
    ⟨taken, received⟩
  cases received with
  | true => rfl
  | false => exact veil.machine_reply taken _

theorem machine_actKept (slot : String) (action : Action) :
    veil.machine (machine.begin (.act slot action)) =
      (veil.machine machine).begin (.act slot action) := by
  have hbegan : veil.machine (machine.record (.began (.act slot action))) =
      (veil.machine machine).record (.began (.act slot action)) := veil.machine_record machine rfl
  have hkept : (machine.record (.began (.act slot action))).kept = machine.kept := rfl
  have hveiled : ((veil.machine machine).record (.began (.act slot action))).kept = machine.kept := rfl
  simp only [Machine.begin, hkept, hveiled]
  cases machine.kept.lookup slot with
  | none =>
      rw [machine_reply, hbegan]
      rfl
  | some handle =>
      rw [machine_reply, machine_act, hbegan]
      rfl

/-- An operation comes to the same under the veil, whatever settings it asks for. -/
theorem machine_begin (h : machine.engine.Consistent) (operation : Operation) :
    veil.machine (machine.begin operation) =
      veil.machine ((veil.machine machine).begin (veil.operation operation)) := by
  cases operation with
  | command command => exact veil.machine_command h command
  | receive frame point => exact veil.machine_eq_machine (veil.machine_receive frame point)
  | present packet times => exact veil.machine_eq_machine rfl
  | dispatch arrival => exact veil.machine_eq_machine rfl
  | act slot action => exact veil.machine_eq_machine (veil.machine_actKept slot action)
  | replaceInventory inventory => exact veil.machine_eq_machine (veil.machine_reply _ _)
  | readSettings => exact veil.machine_eq_machine (veil.machine_reply _ _)
  | readRegistrations => exact veil.machine_eq_machine (veil.machine_reply _ _)
  | readApp => exact veil.machine_eq_machine (veil.machine_reply _ _)
  | idle => exact veil.machine_eq_machine (veil.machine_reply _ _)

theorem machine_perform (h : machine.engine.Consistent) (handle : Handle) (step : Step) :
    veil.machine (machine.perform handle step) =
      veil.machine ((veil.machine machine).perform handle (veil.step step)) := by
  cases step with
  | act action => exact veil.machine_eq_machine (veil.machine_act machine handle action)
  | keep slot => exact veil.machine_eq_machine rfl
  | perform operation => exact veil.machine_begin h operation

/-- A step of a machine and one of the veiled machine come to the same under the veil. -/
theorem machine_step (h : machine.engine.Consistent) (handlers : Handlers) :
    veil.machine (Machine.step handlers machine) =
      veil.machine (Machine.step (veil.handlers handlers) (veil.machine machine)) := by
  obtain ⟨engine, inventory, kept, emissions, invocations, tasks, agenda, history⟩ := machine
  cases tasks with
  | nil =>
      cases agenda with
      | nil => exact veil.machine_eq_machine rfl
      | cons operation agenda =>
          exact @machine_begin veil
            ⟨engine, inventory, kept, emissions, invocations, [], agenda, history⟩ h operation
  | cons task tasks =>
      cases task with
      | presenting packet left =>
          cases left with
          | zero =>
              exact veil.machine_eq_machine (veil.machine_reply
                ⟨engine, inventory, kept, emissions, invocations, tasks, agenda, history⟩ _)
          | succ left =>
              exact veil.machine_eq_machine (veil.machine_present
                ⟨engine, inventory, kept, emissions, invocations, tasks, agenda, history⟩ packet left)
      | delivering delivery =>
          obtain ⟨handle, cause, waiting, invoked⟩ := delivery
          cases waiting with
          | nil =>
              exact veil.machine_eq_machine (veil.machine_conclude
                ⟨engine, inventory, kept, emissions, invocations, tasks, agenda, history⟩ _)
          | cons registration waiting => exact veil.machine_eq_machine rfl
      | running invocation =>
          obtain ⟨number, registration, handle, ⟨steps, ending⟩⟩ := invocation
          cases steps with
          | nil =>
              exact veil.machine_eq_machine (veil.machine_finish
                ⟨engine, inventory, kept, emissions, invocations, tasks, agenda, history⟩ _)
          | cons first steps =>
              exact @machine_perform veil
                ⟨engine, inventory, kept, emissions, invocations,
                  .running ⟨number, registration, handle, ⟨steps, ending⟩⟩ :: tasks, agenda, history⟩
                h handle first

end Blocks

end Veil

end Neighbours
