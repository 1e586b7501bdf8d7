import Neighbours.Proofs.Grouping
import Neighbours.Proofs.Order

/-! The outline of a run. Which handlers get to see which message hangs on little of what a machine
holds: the registry, the stack of tasks without the work left in them, the numbers given out, the
handles kept, and the events that mark dispatches and invocations. Seen in this outline a step is one
of a few turns, and whatever the turns preserve holds throughout a run. -/

namespace Neighbours

/-- A task, of which neither the packet of a presentation nor the steps of a script are seen. -/
inductive Level where
  | presentation
  | delivery (delivery : Delivery)
  | invocation (number : Nat) (registration : Registration) (handle : Handle) (ending : Ending)

def Task.level : Task → Level
  | .presenting _ _ => .presentation
  | .delivering delivery => .delivery delivery
  | .running invocation =>
    .invocation invocation.number invocation.registration invocation.handle invocation.script.ending

def Level.number? : Level → Option Nat
  | .invocation number _ _ _ => some number
  | _ => none

/-- An entry that tells of a fault. -/
def LogEntry.isError : LogEntry → Bool
  | .failed _ _ | .panicked _ => true
  | .duplicates _ _ => false

/-- What is logged when an invocation comes to its end. -/
def Ending.entry? (registration : Registration) : Ending → Option LogEntry
  | .normal => none
  | .failed error => some (.failed registration error)
  | .panicked => some (.panicked registration)

/-- The events by which dispatches and invocations can be followed. -/
def Event.isMark : Event → Bool
  | .began (.dispatch _) | .answered _ (.dispatched _) => true
  | .dispatched _ | .invoked _ _ _ | .ended _ _ _ | .concluded _ _ => true
  | .logged entry => entry.isError
  | _ => false

structure Outline where
  registry : Registry
  kept : List (String × Handle)
  messages : Nat
  invocations : Nat
  faults : UInt64
  levels : List Level
  /-- The latest first. -/
  marks : List Event

def Machine.outline (machine : Machine) : Outline :=
  ⟨machine.engine.registry, machine.kept, machine.emissions.length, machine.invocations,
    machine.engine.stats.faults, machine.tasks.map Task.level, machine.history.filter Event.isMark⟩

/-- What can be read off the marks alone can be read off them instead of the history. -/
theorem Machine.filterMap_marks {α : Type} (machine : Machine) {read? : Event → Option α}
    (h : ∀ event : Event, event.isMark = false → read? event = none) :
    machine.outline.marks.filterMap read? = machine.history.filterMap read? := by
  rw [outline, List.filterMap_filter]
  apply List.filterMap_congr
  intro event _
  cases hmark : event.isMark with
  | true => rfl
  | false => exact (h event hmark).symm

/-- The innermost running invocation of a stack. -/
def runnerOf? (levels : List Level) : Option Nat :=
  levels.findSome? Level.number?

/-- What stands before the mark of a dispatch: only a direct one is asked for by name. -/
def Cause.asking (arrival : Arrival) : Cause → List Event
  | .dispatched => [.began (.dispatch arrival)]
  | .received | .presented => []

/-- What stands after the mark of a conclusion: only a direct dispatch is answered with a number. -/
def Cause.telling (runner : Option Nat) (invoked : Nat) : Cause → List Event
  | .dispatched => [.answered runner (.dispatched invoked)]
  | .received | .presented => []

namespace Outline

/-- The outline after a message has been dispatched. -/
def opened (outline : Outline) (arrival : Arrival) (cause : Cause) : Outline :=
  let handle : Handle := ⟨outline.messages, arrival⟩
  let waiting := (outline.registry.group arrival.point).filter (·.accepts arrival)
  { outline with
    messages := outline.messages + 1
    levels := .delivery ⟨handle, cause, waiting, 0⟩ :: outline.levels
    marks := .dispatched handle :: (cause.asking arrival ++ outline.marks) }

/-- The outline after the first of those who wait for a message has been invoked. -/
def invoked (outline : Outline) (handlers : Handlers) (delivery : Delivery)
    (registration : Registration) (waiting : List Registration) (rest : List Level) : Outline :=
  let script := handlers outline.invocations registration.handler delivery.handle.arrival
  { outline with
    invocations := outline.invocations + 1
    levels := .invocation outline.invocations registration delivery.handle script.ending ::
      .delivery { delivery with waiting := waiting, invoked := delivery.invoked + 1 } :: rest
    marks := .invoked outline.invocations registration delivery.handle :: outline.marks }

/-- The outline after a dispatch has come to its end. -/
def concluded (outline : Outline) (delivery : Delivery) (rest : List Level) : Outline :=
  { outline with
    levels := rest
    marks := delivery.cause.telling (runnerOf? rest) delivery.invoked ++
      .concluded delivery.handle delivery.invoked :: outline.marks }

/-- The outline after an invocation has come to its end. -/
def ended (outline : Outline) (number : Nat) (registration : Registration) (ending : Ending)
    (rest : List Level) : Outline :=
  { outline with
    faults := if ending.isFault then outline.faults + 1 else outline.faults
    levels := rest
    marks := (ending.entry? registration).toList.map .logged ++
      .ended number registration ending :: outline.marks }

/-- What a step can do to the outline of a machine. -/
inductive Turn (handlers : Handlers) (outline : Outline) : Outline → Prop
  | quiet : Turn handlers outline outline
  | governed (registry : Registry) (h : outline.registry.Grouped → registry.Grouped) :
    Turn handlers outline { outline with registry := registry }
  | kept (slot : String) (number : Nat) (registration : Registration) (handle : Handle)
    (ending : Ending) (rest : List Level)
    (hlevels : outline.levels = .invocation number registration handle ending :: rest) :
    Turn handlers outline { outline with kept := (slot, handle) :: outline.kept }
  | presents : Turn handlers outline { outline with levels := .presentation :: outline.levels }
  | passes (rest : List Level) (hlevels : outline.levels = .presentation :: rest) :
    Turn handlers outline { outline with levels := rest }
  | opens (arrival : Arrival) (cause : Cause) : Turn handlers outline (outline.opened arrival cause)
  | invokes (delivery : Delivery) (registration : Registration) (waiting : List Registration)
    (rest : List Level) (hlevels : outline.levels = .delivery delivery :: rest)
    (hwaiting : delivery.waiting = registration :: waiting) :
    Turn handlers outline (outline.invoked handlers delivery registration waiting rest)
  | concludes (delivery : Delivery) (rest : List Level)
    (hlevels : outline.levels = .delivery delivery :: rest) (hwaiting : delivery.waiting = []) :
    Turn handlers outline (outline.concluded delivery rest)
  | ends (number : Nat) (registration : Registration) (handle : Handle) (ending : Ending)
    (rest : List Level)
    (hlevels : outline.levels = .invocation number registration handle ending :: rest) :
    Turn handlers outline (outline.ended number registration ending rest)

end Outline

namespace Engine

theorem registry_configure (engine : Engine) (settings : Settings) :
    (engine.configure settings).2.registry = engine.registry := by
  simp only [configure]
  split
  · rfl
  · split <;> rfl

theorem grouped_run {engine : Engine} (h : engine.registry.Grouped) (command : Command) :
    (engine.run command).engine.registry.Grouped := by
  cases command with
  | insert point registration => exact h.insert point registration
  | erase point registration => exact h.erase point registration
  | eraseApp app => exact h.eraseApp app
  | configure settings =>
      simp only [run]
      split
      · exact h
      · rw [registry_configure]
        exact h
  | shutdown => exact Registry.grouped_empty

/-- Commands neither look at the counters nor change them. -/
theorem run_withStats (engine : Engine) (stats : Stats) (command : Command) :
    { engine with stats := stats }.run command =
      { engine.run command with
        engine := { (engine.run command).engine with stats := stats } } := by
  cases command with
  | configure settings =>
      simp only [run]
      cases settings.validate with
      | error fault => rfl
      | ok _ =>
          simp only [configure]
          by_cases hsame : engine.settings = settings
          · rw [if_pos hsame, if_pos hsame]
          · rw [if_neg hsame, if_neg hsame]
            by_cases hpriority : engine.settings.priority = settings.priority
            · rw [if_pos hpriority, if_pos hpriority]
              rfl
            · rw [if_neg hpriority, if_neg hpriority]
              rfl
  | _ => rfl

theorem stats_run (engine : Engine) (command : Command) :
    (engine.run command).engine.stats = engine.stats :=
  congrArg (·.engine.stats) (engine.run_withStats engine.stats command)

end Engine

namespace Action

/-- Actions count what they send and what the guard holds back, and no faults. -/
theorem faults_perform (inventory : Inventory) (arrival : Arrival) (stats : Stats)
    (action : Action) : (action.perform inventory arrival stats).stats.faults = stats.faults := by
  suffices hfold : ∀ (emissions : List Emission) (transmission : Transmission),
      (emissions.foldl (Transmission.attempt inventory) transmission).stats.faults =
        transmission.stats.faults from hfold _ ⟨stats, []⟩
  intro emissions
  induction emissions with
  | nil => exact fun _ => rfl
  | cons emission rest ih =>
      intro transmission
      rw [List.foldl_cons, ih, Transmission.attempt]
      split <;> rfl

end Action

namespace Machine

theorem runner?_eq_runnerOf? (machine : Machine) :
    machine.runner? = runnerOf? machine.outline.levels := by
  have htasks : ∀ tasks : List Task,
      { machine with tasks := tasks }.runner? = runnerOf? (tasks.map Task.level) := by
    intro tasks
    induction tasks with
    | nil => rfl
    | cons task tasks ih =>
        cases task with
        | running invocation => rfl
        | presenting packet left => exact ih
        | delivering delivery => exact ih
  exact htasks machine.tasks

section Blocks

variable (machine : Machine)

theorem outline_record {event : Event} (h : event.isMark = false) :
    (machine.record event).outline = machine.outline := by
  simp only [outline, record, List.filter_cons, h, Bool.false_eq_true, if_false]

theorem outline_record_mark {event : Event} (h : event.isMark = true) :
    (machine.record event).outline =
      { machine.outline with marks := event :: machine.outline.marks } := by
  simp only [outline, record, List.filter_cons, h, if_true]

theorem outline_push (task : Task) :
    (machine.push task).outline =
      { machine.outline with levels := task.level :: machine.outline.levels } := rfl

theorem outline_withTasks (tasks : List Task) :
    { machine with tasks := tasks }.outline =
      { machine.outline with levels := tasks.map Task.level } := rfl

theorem outline_act (handle : Handle) (action : Action) :
    (machine.act handle action).outline = machine.outline := by
  rw [act, outline_record _ rfl]
  simp only [outline, Action.faults_perform]
  split
  · rfl
  · rw [List.length_modify]

theorem outline_dispatch (arrival : Arrival) (cause : Cause) :
    (machine.dispatch arrival cause).outline =
      { machine.outline.opened arrival cause with
        marks := .dispatched ⟨machine.outline.messages, arrival⟩ :: machine.outline.marks } := by
  simp only [dispatch]
  rw [outline_push, outline_record_mark _ rfl]
  simp only [outline, Outline.opened, count, Stats.countDispatched, Task.level, List.length_append,
    List.length_singleton]

/-- An update of counters that leaves the faults alone is not seen. -/
theorem outline_count {update : Stats → Stats} (h : ∀ stats, (update stats).faults = stats.faults) :
    (machine.count update).outline = machine.outline := by
  simp only [outline, count, h]

/-- A frame either opens a dispatch or leaves the outline as it is. -/
theorem outline_takeIn (frame : Bytes) (point : Point) (cause : Cause)
    (hcause : ∀ arrival, cause.asking arrival = []) :
    (machine.takeIn frame point cause).1.outline = machine.outline ∧
        (machine.takeIn frame point cause).2 = false ∨
      ∃ arrival, (machine.takeIn frame point cause).1.outline =
        machine.outline.opened arrival cause ∧ (machine.takeIn frame point cause).2 = true := by
  have hreceived : (machine.count Stats.countReceived).outline = machine.outline :=
    machine.outline_count fun _ => rfl
  unfold takeIn
  cases Arrival.ofFrame? frame point with
  | none =>
      have hignored : ((machine.count Stats.countReceived).count Stats.countIgnored).outline =
          (machine.count Stats.countReceived).outline := outline_count _ fun _ => rfl
      exact Or.inl ⟨hignored.trans hreceived, rfl⟩
  | some arrival =>
      have hopened := (machine.count Stats.countReceived).outline_dispatch arrival cause
      rw [hreceived] at hopened
      refine Or.inr ⟨arrival, hopened.trans ?_, rfl⟩
      rw [Outline.opened, hcause]
      rfl

end Blocks

variable (handlers : Handlers) (machine : Machine)

/-- An answer that is no number of invocations is not seen. -/
theorem outline_reply {answer : Answer} (h : ∀ runner, (Event.answered runner answer).isMark = false) :
    (machine.reply answer).outline = machine.outline :=
  machine.outline_record (h _)

theorem begin_turn (operation : Operation) :
    machine.outline.Turn handlers (machine.begin operation).outline := by
  cases operation with
  | command command =>
      have hgoverned : (machine.begin (.command command)).outline =
          { machine.outline with registry := (machine.engine.run command).engine.registry } := by
        simp only [begin]
        rw [outline_reply _ fun _ => rfl, outline_record _ rfl]
        simp only [outline, record, Engine.stats_run]
        rfl
      rw [hgoverned]
      exact .governed _ fun h => Engine.grouped_run h command
  | receive frame point =>
      have hbegan : (machine.record (.began (.receive frame point))).outline = machine.outline :=
        machine.outline_record rfl
      rcases (machine.record (.began (.receive frame point))).outline_takeIn frame point .received
        (fun _ => rfl) with ⟨houtline, hanswer⟩ | ⟨arrival, houtline, hanswer⟩
      · have hquiet : (machine.begin (.receive frame point)).outline = machine.outline := by
          simp only [begin]
          split
          · next heq =>
              rw [heq] at hanswer
              cases hanswer
          · next heq =>
              rw [heq] at houtline
              rw [outline_reply _ fun _ => rfl]
              exact houtline.trans hbegan
        rw [hquiet]
        exact .quiet
      · have hopened : (machine.begin (.receive frame point)).outline =
            machine.outline.opened arrival .received := by
          simp only [begin]
          split
          · next heq =>
              rw [heq, hbegan] at houtline
              exact houtline
          · next heq =>
              rw [heq] at hanswer
              cases hanswer
        rw [hopened]
        exact .opens arrival .received
  | present packet times => exact .presents
  | dispatch arrival =>
      have hopened : (machine.begin (.dispatch arrival)).outline =
          machine.outline.opened arrival .dispatched := by
        simp only [begin]
        rw [outline_dispatch, outline_record_mark _ rfl]
        rfl
      rw [hopened]
      exact .opens arrival .dispatched
  | act slot action =>
      have hquiet : (machine.begin (.act slot action)).outline = machine.outline := by
        simp only [begin]
        split
        · rw [outline_reply _ fun _ => rfl, outline_act]
          rfl
        · rw [outline_reply _ fun _ => rfl]
          rfl
      rw [hquiet]
      exact .quiet
  | replaceInventory inventory => exact .quiet
  | readSettings => exact .quiet
  | readRegistrations => exact .quiet
  | readApp => exact .quiet
  | idle => exact .quiet

theorem outline_blockPresented : machine.blockPresented.outline = machine.outline := by
  unfold blockPresented
  split
  · next packet left tasks htasks => simp only [outline, htasks, List.map_cons, Task.level]
  · rfl

theorem outline_conclude (delivery : Delivery) :
    (machine.conclude delivery).outline =
      { machine.outline with
        marks := delivery.cause.telling (runnerOf? machine.outline.levels) delivery.invoked ++
          .concluded delivery.handle delivery.invoked :: machine.outline.marks } := by
  have hlogged : (if machine.engine.warnsDuplicates &&
          decide (1 < machine.emissions.getD delivery.handle.message 0) then
        machine.log (.duplicates delivery.handle.arrival
          (machine.emissions.getD delivery.handle.message 0))
      else machine).outline = machine.outline := by
    split
    · exact machine.outline_record rfl
    · rfl
  simp only [conclude]
  cases delivery.cause with
  | received =>
      show (reply _ _).outline = _
      rw [outline_reply _ fun _ => rfl, outline_record_mark _ rfl, hlogged]
      rfl
  | presented =>
      show (blockPresented _).outline = _
      rw [outline_blockPresented, outline_record_mark _ rfl, hlogged]
      rfl
  | dispatched =>
      show (reply _ _).outline = _
      rw [reply, outline_record_mark _ rfl, runner?_eq_runnerOf?, outline_record_mark _ rfl, hlogged]
      rfl

theorem outline_finish (invocation : Invocation) :
    (machine.finish invocation).outline =
      { machine.outline with
        faults := if invocation.script.ending.isFault then machine.outline.faults + 1
          else machine.outline.faults
        marks := (invocation.script.ending.entry? invocation.registration).toList.map .logged ++
          .ended invocation.number invocation.registration invocation.script.ending ::
            machine.outline.marks } := by
  simp only [finish]
  cases invocation.script.ending with
  | normal => exact machine.outline_record_mark rfl
  | failed error => rfl
  | panicked => rfl

theorem outline_invoke (registration : Registration) (handle : Handle) :
    (invoke handlers machine registration handle).outline =
      { machine.outline with
        invocations := machine.outline.invocations + 1
        levels := .invocation machine.outline.invocations registration handle
          (handlers machine.outline.invocations registration.handler handle.arrival).ending ::
            machine.outline.levels
        marks := .invoked machine.outline.invocations registration handle ::
          machine.outline.marks } := rfl

theorem levels_outline {machine : Machine} {task : Task} {tasks : List Task}
    (htasks : machine.tasks = task :: tasks) :
    machine.outline.levels = task.level :: tasks.map Task.level := by
  rw [outline, htasks, List.map_cons]

/-- A task can be replaced by one that looks the same in outline. -/
theorem outline_replace {machine : Machine} {task other : Task} {tasks : List Task}
    (htasks : machine.tasks = task :: tasks) (hlevel : other.level = task.level) :
    { machine with tasks := other :: tasks }.outline = machine.outline := by
  rw [outline_withTasks, List.map_cons, hlevel, ← levels_outline htasks]

theorem present_turn {machine : Machine} {packet : Packet} {left : Nat} {tasks : List Task}
    (htasks : machine.tasks = .presenting packet (left + 1) :: tasks) :
    machine.outline.Turn handlers ({ machine with tasks := tasks }.present packet left).outline := by
  have hshown : (({ machine with tasks := tasks }.record (.presented packet)).push
      (.presenting packet left)).outline = machine.outline := outline_replace htasks rfl
  simp only [present]
  split
  · rw [hshown]
    exact .quiet
  · rcases outline_takeIn (({ machine with tasks := tasks }.record (.presented packet)).push
      (.presenting packet left)) packet.frame packet.point .presented (fun _ => rfl)
      with ⟨houtline, -⟩ | ⟨arrival, houtline, -⟩
    · rw [houtline, hshown]
      exact .quiet
    · rw [houtline, hshown]
      exact .opens arrival .presented

theorem perform_turn {number : Nat} {registration : Registration} {handle : Handle}
    {ending : Ending} {rest : List Level}
    (hlevels : machine.outline.levels = .invocation number registration handle ending :: rest)
    (step : Step) : machine.outline.Turn handlers (machine.perform handle step).outline := by
  cases step with
  | act action =>
      rw [perform, outline_act]
      exact .quiet
  | keep slot => exact .kept slot _ _ _ _ _ hlevels
  | perform operation => exact begin_turn handlers machine operation

/-- Every step is a turn of the outline. -/
theorem step_turn : machine.outline.Turn handlers (step handlers machine).outline := by
  unfold step
  split
  · split
    · exact .quiet
    · next operation agenda _ => exact begin_turn handlers { machine with agenda := agenda } operation
  · next packet tasks htasks =>
      rw [outline_reply _ fun _ => rfl]
      exact .passes _ (levels_outline htasks)
  · next packet left tasks htasks => exact present_turn handlers htasks
  · next delivery tasks htasks =>
      split
      · next hwaiting =>
          rw [outline_conclude]
          exact .concludes _ _ (levels_outline htasks) hwaiting
      · next registration waiting hwaiting =>
          rw [outline_invoke]
          exact .invokes _ _ _ _ (levels_outline htasks) hwaiting
  · next invocation tasks htasks =>
      split
      · rw [outline_finish]
        exact .ends _ _ _ _ _ (levels_outline htasks)
      · next first steps _ =>
          have hsame : { machine with tasks := .running { invocation with
              script := { invocation.script with steps := steps } } :: tasks }.outline =
              machine.outline := outline_replace htasks rfl
          have hlevels := levels_outline htasks
          rw [← hsame] at hlevels ⊢
          exact perform_turn handlers _ hlevels first

end Machine

section Ordered

variable (order : Order)

/-- The stack after those who wait for the innermost message have been put in a row. -/
def Order.arrangeLevels : List Level → List Level
  | .delivery delivery :: rest => .delivery (order.arrangeDelivery delivery) :: rest
  | levels => levels

def Outline.arranged (outline : Outline) : Outline :=
  { outline with levels := order.arrangeLevels outline.levels }

/-- Putting those who wait in a row changes nothing but the innermost delivery. -/
theorem Order.mem_arrangeLevels {level : Level} {levels : List Level}
    (h : level ∈ order.arrangeLevels levels) :
    (∃ delivery, level = .delivery (order.arrangeDelivery delivery) ∧
      .delivery delivery ∈ levels) ∨ level ∈ levels := by
  cases levels with
  | nil => exact Or.inr h
  | cons first rest =>
      cases first with
      | delivery delivery =>
          rcases List.mem_cons.mp h with heq | hrest
          · exact Or.inl ⟨delivery, heq, List.mem_cons_self⟩
          · exact Or.inr (List.mem_cons_of_mem _ hrest)
      | presentation => exact Or.inr h
      | invocation _ _ _ _ => exact Or.inr h

namespace Machine

theorem outline_arrange (machine : Machine) :
    (machine.arrange order).outline = machine.outline.arranged order := by
  have htasks : (order.arrangeTasks machine.tasks).map Task.level =
      order.arrangeLevels (machine.tasks.map Task.level) := by
    cases machine.tasks with
    | nil => rfl
    | cons task tasks => cases task <;> rfl
  rw [arrange, outline_withTasks, htasks]
  rfl

variable (handlers : Handlers)

theorem stepIn_turn (machine : Machine) :
    ∃ middle, machine.outline.Turn handlers middle ∧
      (stepIn order handlers machine).outline = middle.arranged order :=
  ⟨_, step_turn handlers machine, outline_arrange order _⟩

/-- What every turn preserves, whoever comes next, holds throughout a run. -/
theorem outline_preserve {holds : Outline → Prop}
    (hturn : ∀ before after, before.Turn handlers after → holds before → holds after)
    (harranged : ∀ outline, holds outline → holds (outline.arranged order)) (n : Nat)
    {machine : Machine} (h : holds machine.outline) :
    holds (runIn order handlers n machine).outline := by
  have hstep : ∀ machine : Machine, holds machine.outline →
      holds (stepIn order handlers machine).outline := by
    intro machine h
    obtain ⟨middle, hmiddle, houtline⟩ := stepIn_turn order handlers machine
    rw [houtline]
    exact harranged middle (hturn _ _ hmiddle h)
  exact runIn_preserve order handlers hstep n h

end Machine

end Ordered

end Neighbours
