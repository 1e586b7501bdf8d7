import Mathlib.Data.List.GetD
import Neighbours.Proofs.Emission
import Neighbours.Proofs.Routine

/-! Runs that begin later. A machine that has a past behind it goes on like one that has none: its steps
do the same, but that messages and invocations are numbered from where the past has left off, and that
all is added to what the past has left behind. The past comes in only where a handle kept in it is used.
-/

namespace Neighbours

namespace Stats

/-- Counters that go on from others. -/
instance : Add Stats where
  add left right :=
    { received := left.received + right.received
      ignored := left.ignored + right.ignored
      dispatched := left.dispatched + right.dispatched
      invoked := left.invoked + right.invoked
      faults := left.faults + right.faults
      emitted := left.emitted + right.emitted
      guarded := left.guarded + right.guarded }

theorem add_eq (left right : Stats) :
    left + right =
      { received := left.received + right.received
        ignored := left.ignored + right.ignored
        dispatched := left.dispatched + right.dispatched
        invoked := left.invoked + right.invoked
        faults := left.faults + right.faults
        emitted := left.emitted + right.emitted
        guarded := left.guarded + right.guarded } := rfl

theorem add_zero (stats : Stats) : stats + zero = stats := by
  simp [add_eq, zero]

/-- What an update adds does not hang on what has been counted before. -/
def Additive (update : Stats → Stats) : Prop :=
  ∀ before stats : Stats, update (before + stats) = before + update stats

theorem additive_countReceived : Additive countReceived := fun _ _ => by
  simp [add_eq, countReceived, UInt64.add_assoc]

theorem additive_countIgnored : Additive countIgnored := fun _ _ => by
  simp [add_eq, countIgnored, UInt64.add_assoc]

theorem additive_countDispatched : Additive countDispatched := fun _ _ => by
  simp [add_eq, countDispatched, UInt64.add_assoc]

theorem additive_countInvoked : Additive countInvoked := fun _ _ => by
  simp [add_eq, countInvoked, UInt64.add_assoc]

theorem additive_countFault : Additive countFault := fun _ _ => by
  simp [add_eq, countFault, UInt64.add_assoc]

theorem additive_transmitted (sent held : Nat) : Additive (·.transmitted sent held) := fun _ _ => by
  simp [add_eq, transmitted, UInt64.add_assoc]

end Stats

theorem Action.perform_add (action : Action) (inventory : Inventory) (arrival : Arrival)
    (before stats : Stats) :
    action.perform inventory arrival (before + stats) =
      ⟨before + (action.perform inventory arrival stats).stats,
        (action.perform inventory arrival stats).sent⟩ := by
  have hstats := Stats.additive_transmitted (action.sent inventory arrival).length
    (action.held inventory arrival).length before stats
  rw [perform_eq, perform_eq]
  exact congrArg (Transmission.mk · _) hstats

/-- How many messages and invocations have been numbered before. -/
structure Offset where
  messages : Nat
  invocations : Nat

namespace Offset

variable (offset : Offset)

def handle (handle : Handle) : Handle :=
  { handle with message := offset.messages + handle.message }

def runner (runner : Option Nat) : Option Nat :=
  runner.map (offset.invocations + ·)

def delivery (delivery : Delivery) : Delivery :=
  { delivery with handle := offset.handle delivery.handle }

def invocation (invocation : Invocation) : Invocation :=
  { invocation with
    number := offset.invocations + invocation.number
    handle := offset.handle invocation.handle }

def task : Task → Task
  | .presenting packet left => .presenting packet left
  | .delivering delivery => .delivering (offset.delivery delivery)
  | .running invocation => .running (offset.invocation invocation)

def event : Event → Event
  | .dispatched handle => .dispatched (offset.handle handle)
  | .invoked number registration handle =>
    .invoked (offset.invocations + number) registration (offset.handle handle)
  | .acted runner handle action inventory sent =>
    .acted (offset.runner runner) (offset.handle handle) action inventory sent
  | .ended number registration ending => .ended (offset.invocations + number) registration ending
  | .concluded handle invoked => .concluded (offset.handle handle) invoked
  | .answered runner answer => .answered (offset.runner runner) answer
  | event => event

/-- What handlers do from then on. -/
def handlers (handlers : Handlers) : Handlers := fun number =>
  handlers (offset.invocations + number)

/-- Who comes next from then on. -/
def order (order : Order) : Order :=
  ⟨fun message => order.arrange (offset.messages + message), fun _ => order.perm _⟩

end Offset

namespace Machine

/-- Where the numbers of a machine have got to. -/
def offset (machine : Machine) : Offset :=
  ⟨machine.emissions.length, machine.invocations⟩

/-- A machine with the past of another behind it. -/
def after (machine past : Machine) : Machine where
  engine := { machine.engine with stats := past.engine.stats + machine.engine.stats }
  inventory := machine.inventory
  kept := machine.kept.map (fun (slot, handle) => (slot, past.offset.handle handle)) ++ past.kept
  emissions := past.emissions ++ machine.emissions
  invocations := past.invocations + machine.invocations
  tasks := machine.tasks.map past.offset.task
  agenda := machine.agenda
  history := machine.history.map past.offset.event ++ past.history

/-- What is modified in the second of two rows stands there after the first. -/
theorem modify_append_right {α : Type} (front back : List α) (index : Nat) (f : α → α) :
    (front ++ back).modify (front.length + index) f = front ++ back.modify index f := by
  induction front with
  | nil => simp
  | cons first front ih =>
      rw [List.length_cons, Nat.add_right_comm, List.cons_append, List.modify_succ_cons, ih,
        List.cons_append]

section Blocks

variable (machine past : Machine)

theorem runner?_after : (machine.after past).runner? = past.offset.runner machine.runner? := by
  have htasks : ∀ tasks : List Task,
      { machine with tasks := tasks.map past.offset.task }.runner? =
        past.offset.runner { machine with tasks := tasks }.runner? := by
    intro tasks
    induction tasks with
    | nil => rfl
    | cons task tasks ih =>
        cases task with
        | running invocation => rfl
        | presenting packet left => exact ih
        | delivering delivery => exact ih
  exact htasks machine.tasks

theorem after_count {update : Stats → Stats} (h : Stats.Additive update) :
    (machine.count update).after past = (machine.after past).count update := by
  simp only [count, after, h past.engine.stats machine.engine.stats]

theorem after_reply (answer : Answer) :
    (machine.reply answer).after past = (machine.after past).reply answer := by
  simp only [reply, runner?_after]
  rfl

theorem after_act (handle : Handle) (action : Action) :
    (machine.act handle action).after past =
      (machine.after past).act (past.offset.handle handle) action := by
  have hperform := action.perform_add machine.inventory handle.arrival past.engine.stats
    machine.engine.stats
  have hemissions : past.emissions ++ machine.emissions.modify handle.message (· + 1) =
      (past.emissions ++ machine.emissions).modify (past.emissions.length + handle.message) (· + 1) :=
    (modify_append_right _ _ _ _).symm
  simp only [act, runner?_after]
  simp only [after, record, offset, Offset.handle, Offset.event, hperform, List.map_cons,
    List.cons_append]
  split
  · rfl
  · rw [hemissions]

theorem after_dispatch (arrival : Arrival) (cause : Cause) :
    (machine.dispatch arrival cause).after past = (machine.after past).dispatch arrival cause := by
  have hcount := machine.after_count past Stats.additive_countDispatched
  have hmessage : (machine.after past).emissions.length =
      past.emissions.length + machine.emissions.length := List.length_append
  simp only [dispatch, ← hcount, hmessage]
  simp only [after, record, push, List.append_assoc]
  rfl

theorem takeIn_after (frame : Bytes) (point : Point) (cause : Cause) :
    (machine.after past).takeIn frame point cause =
      ((machine.takeIn frame point cause).1.after past,
        (machine.takeIn frame point cause).2) := by
  simp only [takeIn, ← machine.after_count past Stats.additive_countReceived]
  cases Arrival.ofFrame? frame point with
  | some arrival => rw [after_dispatch]
  | none => rw [after_count _ past Stats.additive_countIgnored]

theorem present_after (packet : Packet) (left : Nat) :
    (machine.after past).present packet left = (machine.present packet left).after past := by
  have hshown : ((machine.after past).record (.presented packet)).push (.presenting packet left) =
      ((machine.record (.presented packet)).push (.presenting packet left)).after past := rfl
  simp only [present, hshown]
  split
  · rfl
  · rw [takeIn_after]

theorem closing_after (delivery : Delivery) :
    (machine.after past).closing (past.offset.delivery delivery) =
      (machine.closing delivery).map past.offset.event := by
  obtain ⟨handle, cause, waiting, invoked⟩ := delivery
  have hemissions : (past.emissions ++ machine.emissions).getD
      (past.emissions.length + handle.message) 0 = machine.emissions.getD handle.message 0 := by
    rw [List.getD_append_right _ _ _ _ (Nat.le_add_right _ _), Nat.add_sub_cancel_left]
  simp only [closing, runner?_after]
  simp only [after, offset, Offset.delivery, Offset.handle, hemissions]
  cases machine.engine.warnsDuplicates && decide (1 < machine.emissions.getD handle.message 0) with
  | false => cases cause <;> rfl
  | true => cases cause <;> rfl

theorem settle_after (cause : Cause) (tasks : List Task) :
    cause.settle (tasks.map past.offset.task) = (cause.settle tasks).map past.offset.task := by
  cases cause with
  | presented =>
      cases tasks with
      | nil => rfl
      | cons task tasks => cases task <;> rfl
  | received => rfl
  | dispatched => rfl

theorem conclude_after (delivery : Delivery) :
    (machine.after past).conclude (past.offset.delivery delivery) =
      (machine.conclude delivery).after past := by
  have htasks := past.settle_after delivery.cause machine.tasks
  rw [conclude_eq, conclude_eq, closing_after]
  simp only [after, List.map_append, List.append_assoc, ← htasks]
  rfl

theorem finish_after (invocation : Invocation) :
    (machine.after past).finish (past.offset.invocation invocation) =
      (machine.finish invocation).after past := by
  obtain ⟨number, registration, handle, ⟨steps, ending⟩⟩ := invocation
  let ended := machine.record (.ended number registration ending)
  have hfault : ∀ entry, ((ended.count Stats.countFault).log entry).after past =
      ((ended.after past).count Stats.countFault).log entry := by
    intro entry
    rw [← ended.after_count past Stats.additive_countFault]
    rfl
  cases ending with
  | normal => rfl
  | failed error => exact (hfault (.failed registration error)).symm
  | panicked => exact (hfault (.panicked registration)).symm

theorem invoke_after (handlers : Handlers) (registration : Registration) (handle : Handle) :
    invoke handlers (machine.after past) registration (past.offset.handle handle) =
      (invoke (past.offset.handlers handlers) machine registration handle).after past := by
  simp only [invoke, ← machine.after_count past Stats.additive_countInvoked]
  rfl

end Blocks

/-- Of two handles kept under one name the later is used. -/
theorem lookup_kept_after (machine past : Machine) (slot : String) :
    (machine.after past).kept.lookup slot =
      ((machine.kept.lookup slot).map past.offset.handle).or (past.kept.lookup slot) := by
  simp only [after, List.lookup_append]
  congr 1
  induction machine.kept with
  | nil => rfl
  | cons first kept ih =>
      obtain ⟨name, handle⟩ := first
      simp only [List.map_cons, List.lookup_cons]
      cases slot == name with
      | true => rfl
      | false => exact ih

/-- The next step does not reach for a handle that was kept in the past. -/
def Unaided (machine past : Machine) : Prop :=
  ∀ slot action, machine.operation? = some (.act slot action) →
    machine.kept.lookup slot = none → past.kept.lookup slot = none

section Steps

variable {machine past : Machine}

theorem begin_command_after (command : Command) :
    (machine.after past).begin (.command command) =
      (machine.begin (.command command)).after past := by
  let began := machine.record (.began (.command command))
  let governed : Machine := { began with engine := (began.engine.run command).engine }
  have hengine : (began.after past).engine.run command =
      { machine.engine.run command with engine := (governed.after past).engine } := by
    show _ = { machine.engine.run command with
      engine := { (machine.engine.run command).engine with
        stats := past.engine.stats + (machine.engine.run command).engine.stats } }
    rw [Engine.stats_run]
    exact machine.engine.run_withStats (past.engine.stats + machine.engine.stats) command
  have hbegan : (machine.after past).record (.began (.command command)) = began.after past := rfl
  simp only [begin, hbegan, hengine]
  exact ((governed.record (.commanded command (machine.engine.run command).calls
    (machine.engine.run command).answer)).after_reply past _).symm

theorem begin_after (operation : Operation)
    (h : ∀ slot action, operation = .act slot action →
      machine.kept.lookup slot = none → past.kept.lookup slot = none) :
    (machine.after past).begin operation = (machine.begin operation).after past := by
  have hbegan : (machine.after past).record (.began operation) =
      (machine.record (.began operation)).after past := rfl
  have hreply := (machine.record (.began operation)).after_reply past
  cases operation with
  | command command => exact begin_command_after command
  | receive frame point =>
      simp only [begin, hbegan, takeIn_after]
      rcases (machine.record (.began (.receive frame point))).takeIn frame point .received with
        ⟨taken, received⟩
      cases received with
      | true => rfl
      | false => exact (taken.after_reply past _).symm
  | present packet times => rfl
  | dispatch arrival =>
      exact ((machine.record (.began (.dispatch arrival))).after_dispatch past arrival
        .dispatched).symm
  | act slot action =>
      have hsame : (machine.record (.began (.act slot action))).kept = machine.kept := rfl
      simp only [begin, hbegan, lookup_kept_after, hsame]
      cases hlookup : machine.kept.lookup slot with
      | none =>
          rw [h slot action rfl hlookup]
          exact (hreply _).symm
      | some handle =>
          simp only [Option.map_some, Option.some_or, ← after_act]
          exact (after_reply _ past _).symm
  | replaceInventory inventory =>
      exact (after_reply { machine.record (.began (.replaceInventory inventory)) with
        inventory := inventory } past _).symm
  | readSettings => exact (hreply _).symm
  | readRegistrations => exact (hreply _).symm
  | readApp => exact (hreply _).symm
  | idle => exact (hreply _).symm

theorem perform_after (handle : Handle) (step : Step)
    (h : ∀ slot action, step = .perform (.act slot action) →
      machine.kept.lookup slot = none → past.kept.lookup slot = none) :
    (machine.after past).perform (past.offset.handle handle) step =
      (machine.perform handle step).after past := by
  cases step with
  | act action => exact (machine.after_act past handle action).symm
  | keep slot => rfl
  | perform operation =>
      apply begin_after
      intro slot action heq
      exact h slot action (congrArg Step.perform heq)

theorem step_after (handlers : Handlers) (h : machine.Unaided past) :
    step handlers (machine.after past) =
      (step (past.offset.handlers handlers) machine).after past := by
  obtain ⟨engine, inventory, kept, emissions, invocations, tasks, agenda, history⟩ := machine
  cases tasks with
  | nil =>
      cases agenda with
      | nil => rfl
      | cons operation agenda =>
          let machine : Machine :=
            ⟨engine, inventory, kept, emissions, invocations, [], agenda, history⟩
          apply machine.begin_after
          intro slot action heq
          exact h slot action (congrArg some heq)
  | cons task tasks =>
      let machine : Machine := ⟨engine, inventory, kept, emissions, invocations, tasks, agenda, history⟩
      cases task with
      | presenting packet left =>
          cases left with
          | zero => exact (machine.after_reply past (.presented packet)).symm
          | succ left => exact machine.present_after past packet left
      | delivering delivery =>
          obtain ⟨handle, cause, waiting, invoked⟩ := delivery
          cases waiting with
          | nil => exact machine.conclude_after past ⟨handle, cause, [], invoked⟩
          | cons registration waiting =>
              exact (machine.push (.delivering ⟨handle, cause, waiting, invoked + 1⟩)).invoke_after past
                handlers registration handle
      | running invocation =>
          obtain ⟨number, registration, handle, ⟨steps, ending⟩⟩ := invocation
          cases steps with
          | nil => exact machine.finish_after past ⟨number, registration, handle, ⟨[], ending⟩⟩
          | cons first steps =>
              apply (machine.push (.running ⟨number, registration, handle, ⟨steps, ending⟩⟩)).perform_after
                handle first
              intro slot action heq
              apply h slot action
              rw [heq]
              rfl

theorem arrange_after (order : Order) :
    (machine.after past).arrange order = (machine.arrange (past.offset.order order)).after past := by
  obtain ⟨engine, inventory, kept, emissions, invocations, tasks, agenda, history⟩ := machine
  cases tasks with
  | nil => rfl
  | cons task tasks => cases task <;> rfl

end Steps

theorem acting?_of_operation? {machine : Machine} {operation : Operation}
    (h : machine.operation? = some operation) :
    machine.acting? = operation.acting? machine.kept := by
  obtain ⟨engine, inventory, kept, emissions, invocations, tasks, agenda, history⟩ := machine
  cases tasks with
  | nil =>
      obtain ⟨rest, hagenda⟩ := List.head?_eq_some_iff.mp h
      cases hagenda
      rfl
  | cons task tasks =>
      cases task with
      | presenting packet left => cases h
      | delivering delivery => cases h
      | running invocation =>
          obtain ⟨number, registration, handle, ⟨steps, ending⟩⟩ := invocation
          cases steps with
          | nil => cases h
          | cons first steps =>
              cases first with
              | act action => cases h
              | keep slot => cases h
              | perform other =>
                  cases h
                  rfl

theorem operation?_after (machine past : Machine) :
    (machine.after past).operation? = machine.operation? := by
  obtain ⟨engine, inventory, kept, emissions, invocations, tasks, agenda, history⟩ := machine
  cases tasks with
  | nil => rfl
  | cons task tasks => cases task <;> rfl

/-- Whoever acts on messages of his own does not reach for a handle kept in the past. -/
theorem unaided_of_acting {machine past : Machine}
    (hpast : ∀ slot handle, past.kept.lookup slot = some handle →
      handle.message < past.emissions.length)
    (hown : ∀ handle action, (machine.after past).acting? = some (handle, action) →
      past.emissions.length ≤ handle.message) : machine.Unaided past := by
  intro slot action hoperation hnone
  have hacting : (machine.after past).acting? = (past.kept.lookup slot).map (·, action) := by
    rw [acting?_of_operation? ((operation?_after machine past).trans hoperation), Operation.acting?,
      lookup_kept_after, hnone]
    rfl
  cases hlookup : past.kept.lookup slot with
  | none => rfl
  | some handle =>
      rw [hlookup] at hacting
      exact absurd (hown handle action hacting) (Nat.not_le_of_lt (hpast slot handle hlookup))

/-- A run that begins later does what one with nothing behind it does, as long as it acts on messages
of its own. -/
theorem runIn_after (order : Order) (handlers : Handlers) {machine past : Machine} {n : Nat}
    (hpast : ∀ slot handle, past.kept.lookup slot = some handle →
      handle.message < past.emissions.length)
    (hown : ∀ m < n, ∀ handle action,
      (runIn order handlers m (machine.after past)).acting? = some (handle, action) →
        past.emissions.length ≤ handle.message) :
    runIn order handlers n (machine.after past) =
      (runIn (past.offset.order order) (past.offset.handlers handlers) n machine).after past := by
  -- The run so far is known by induction, so what the next step acts on is known as well.
  induction n with
  | zero => rfl
  | succ n ih =>
      have hbefore := ih fun m hm => hown m (Nat.lt_succ_of_lt hm)
      have hnow := hown n (Nat.lt_succ_self n)
      rw [hbefore] at hnow
      rw [runIn_succ, runIn_succ, hbefore, stepIn,
        step_after handlers (unaided_of_acting hpast hnow), arrange_after]
      rfl

end Machine

end Neighbours
