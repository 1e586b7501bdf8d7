import Neighbours.Proofs.Rounds

/-! The order in which handlers are invoked. Where handlers have routines, those that a message is for
can be gone through in any order: whatever they send and however they end, nothing but the order of what
happened differs, then and for the rest of the run. -/

namespace Neighbours

namespace Routine

variable (routine other : Routine) (inventory : Inventory) (arrival : Arrival)

/-- It makes no difference to the counters which of two invocations comes first. -/
theorem counted_comm (stats : Stats) :
    other.counted inventory arrival (routine.counted inventory arrival stats) =
      routine.counted inventory arrival (other.counted inventory arrival stats) := by
  have hright : ∀ a b c : UInt64, a + b + c = a + c + b := by
    intro a b c
    rw [UInt64.add_assoc, UInt64.add_comm b c, ← UInt64.add_assoc]
  have hsent := hright stats.emitted (UInt64.ofNat (routine.sent inventory arrival).length)
    (UInt64.ofNat (other.sent inventory arrival).length)
  have hheld := hright stats.guarded (UInt64.ofNat (routine.held inventory arrival).length)
    (UInt64.ofNat (other.held inventory arrival).length)
  unfold counted
  split <;> split <;>
    simp only [Stats.countFault, Stats.transmitted, Stats.countInvoked, hsent, hheld]

theorem emissions_comm (emissions : List Nat) (message : Nat) :
    (emissions.modify message (· + routine.emissions inventory arrival)).modify message
        (· + other.emissions inventory arrival) =
      (emissions.modify message (· + other.emissions inventory arrival)).modify message
        (· + routine.emissions inventory arrival) := by
  rw [List.modify_modify_eq, List.modify_modify_eq]
  congr 1
  funext count
  exact Nat.add_right_comm count _ _

end Routine

namespace Machine

section Row

variable (routines : Routines) (handle : Handle)

/-- But for what is noted, a row of invocations is a fold of invocations that note nothing. -/
theorem unrecorded_attendedBy (machine : Machine) (queue : List Registration) :
    (machine.attendedBy routines handle queue).unrecorded =
      queue.foldl (fun machine registration =>
        (machine.attended routines handle registration).unrecorded) machine.unrecorded := by
  induction queue generalizing machine with
  | nil => rfl
  | cons registration queue ih => exact ih (machine.attended routines handle registration)

theorem unrecorded_attended_comm (machine : Machine) (one other : Registration) :
    ((machine.attended routines handle one).unrecorded.attended routines handle other).unrecorded =
      ((machine.attended routines handle other).unrecorded.attended routines handle one).unrecorded := by
  simp only [attended, unrecorded, Routine.counted_comm, Routine.emissions_comm]

/-- But for what is noted, it makes no difference in which order a row of invocations is gone through. -/
theorem unrecorded_attendedBy_perm {machine other : Machine} (h : machine.unrecorded = other.unrecorded)
    {queue row : List Registration} (hqueue : queue.Perm row) :
    (machine.attendedBy routines handle queue).unrecorded =
      (other.attendedBy routines handle row).unrecorded := by
  rw [unrecorded_attendedBy, unrecorded_attendedBy, h]
  exact hqueue.foldl_eq' (fun one _ two _ machine =>
    unrecorded_attended_comm routines handle machine one two) other.unrecorded

end Row

/-- Machines that differ in nothing but the order in which handlers were invoked. -/
structure Agree (one other : Machine) : Prop where
  unrecorded : one.unrecorded = other.unrecorded
  fresh : one.Fresh ∧ other.Fresh
  answers : Events.answersTo none one.history.reverse = Events.answersTo none other.history.reverse
  calls : Events.calls one.history.reverse = Events.calls other.history.reverse
  invocations : (Events.invocations one.history.reverse).Perm
    (Events.invocations other.history.reverse)
  sent : (Events.sent one.history.reverse).Perm (Events.sent other.history.reverse)
  log : (Events.log one.history.reverse).Perm (Events.log other.history.reverse)

namespace Agree

variable {one other : Machine} (h : one.Agree other)
include h

theorem engine_eq : one.engine = other.engine := by
  have heq := congrArg engine h.unrecorded
  exact heq

theorem inventory_eq : one.inventory = other.inventory := by
  have heq := congrArg inventory h.unrecorded
  exact heq

theorem tasks_eq : one.tasks = other.tasks := by
  have heq := congrArg tasks h.unrecorded
  exact heq

theorem agenda_eq : one.agenda = other.agenda := by
  have heq := congrArg agenda h.unrecorded
  exact heq

theorem invocations_eq : one.invocations = other.invocations := by
  have heq := congrArg Machine.invocations h.unrecorded
  exact heq

/-- Machines that note the same, and nothing of an invocation, still agree. -/
theorem extend {next after : Machine} (added : List Event) (hnext : next.history = added ++ one.history)
    (hafter : after.history = added ++ other.history)
    (hadded : ∀ event ∈ added, event.number? = none)
    (hunrecorded : next.unrecorded = after.unrecorded)
    (hinvocations : one.invocations ≤ next.invocations) : next.Agree after := by
  have hsame := congrArg Machine.invocations hunrecorded
  have hafterLe : other.invocations ≤ after.invocations := by
    rw [← h.invocations_eq]
    exact Nat.le_trans hinvocations (Nat.le_of_eq hsame)
  obtain ⟨hfreshNext, hinvocationsNext⟩ := h.fresh.1.extend hnext hadded hinvocations
  obtain ⟨hfreshAfter, hinvocationsAfter⟩ := h.fresh.2.extend hafter hadded hafterLe
  constructor
  case unrecorded => exact hunrecorded
  case fresh => exact ⟨hfreshNext, hfreshAfter⟩
  case answers =>
    rw [hnext, hafter, List.reverse_append, List.reverse_append, Events.answersTo_append,
      Events.answersTo_append, h.answers]
  case calls =>
    rw [hnext, hafter, List.reverse_append, List.reverse_append, Events.calls_append,
      Events.calls_append, h.calls]
  case invocations =>
    rw [hinvocationsNext, hinvocationsAfter]
    exact h.invocations
  case sent =>
    rw [hnext, hafter, List.reverse_append, List.reverse_append, Events.sent_append,
      Events.sent_append]
    exact h.sent.append_right _
  case log =>
    rw [hnext, hafter, List.reverse_append, List.reverse_append, Events.log_append,
      Events.log_append]
    exact h.log.append_right _

/-- A step between dispatches. -/
theorem step {left : Nat} (hawaits : one.Awaits left) (handlers : Handlers) :
    (Machine.step handlers one).Agree (Machine.step handlers other) := by
  have hunrecorded : one.unrecorded.Awaits left := hawaits.of_tasks rfl
  refine h.extend _ (one.history_step handlers) ?_
    (hunrecorded.unnumbered_step handlers unnumbered_unrecorded) ?_ (invocations_le_step handlers one)
  · rw [h.unrecorded]
    exact other.history_step handlers
  · rw [unrecorded_step, h.unrecorded, ← unrecorded_step]

/-- A row of invocations, in whatever order they come. -/
theorem attendedBy (routines : Routines) (handle : Handle) {queue row : List Registration}
    (hqueue : queue.Perm row) :
    (one.attendedBy routines handle queue).Agree (other.attendedBy routines handle row) := by
  obtain ⟨hone, hother⟩ := h.fresh
  constructor
  case unrecorded => exact unrecorded_attendedBy_perm routines handle h.unrecorded hqueue
  case fresh => exact ⟨hone.attendedBy queue, hother.attendedBy row⟩
  case answers => rw [answersTo_attendedBy, answersTo_attendedBy, h.answers]
  case calls => rw [calls_attendedBy, calls_attendedBy, h.calls]
  case invocations =>
    rw [invocations_attendedBy _ hone, invocations_attendedBy _ hother, h.inventory_eq]
    exact h.invocations.append (hqueue.map _)
  case sent =>
    rw [sent_attendedBy _ hone, sent_attendedBy _ hother, h.inventory_eq]
    exact h.sent.append (hqueue.flatMap_right _)
  case log =>
    rw [log_attendedBy _ hone, log_attendedBy _ hother]
    exact h.log.append (hqueue.flatMap_right _)

theorem withTasks (tasks : List Task) : (one.withTasks tasks).Agree (other.withTasks tasks) :=
  ⟨congrArg (Machine.withTasks · tasks) h.unrecorded, h.fresh, h.answers, h.calls, h.invocations,
    h.sent, h.log⟩

/-- The end of a dispatch. -/
theorem conclude (hrunner : one.runner? = none) (delivery : Delivery) :
    (one.conclude delivery).Agree (other.conclude delivery) := by
  have hclosing : one.closing delivery = other.closing delivery := by
    have heq := congrArg (closing · delivery) h.unrecorded
    exact heq
  refine h.extend (one.closing delivery) ?_ ?_
    (fun event hmem => number?_of_mem_closing hrunner hmem) ?_ ?_
  · rw [conclude_eq]
  · rw [conclude_eq, hclosing]
  · have heq := congrArg (fun machine => (machine.conclude delivery).unrecorded) h.unrecorded
    simp only [conclude_eq] at heq ⊢
    exact heq
  · rw [conclude_eq]

theorem delivered (routines : Routines) {delivery : Delivery} {tasks : List Task} {left : Nat}
    (hawaits : (one.withTasks tasks).Awaits left) {queue row : List Registration}
    (hqueue : queue.Perm row) :
    (one.delivered routines delivery tasks queue).Agree
      (other.delivered routines delivery tasks row) := by
  have hrow : ((one.attendedBy routines delivery.handle queue).withTasks tasks).Awaits left :=
    hawaits.of_tasks rfl
  have hagree := ((h.attendedBy routines delivery.handle hqueue).withTasks tasks).conclude
    hrow.runner?_eq_none { delivery with waiting := [], invoked := delivery.invoked + queue.length }
  rw [Machine.delivered, Machine.delivered, ← hqueue.length_eq]
  exact hagree

section Going

variable {routines : Routines} {next after : Machine}

/-- A round, in whatever order those who wait are gone through. -/
theorem round {now left : Nat} (hnow : one.Awaits now)
    (hstep : (Machine.step routines.handlers one).Underway left)
    (hone : Round routines one next) (hother : Round routines other after) : next.Agree after := by
  have hagree := h.step hnow routines.handlers
  -- Both machines have come to the same tasks, so both begin a dispatch or neither does.
  have htasks := hagree.tasks_eq
  cases hone with
  | quiet hquiet =>
      cases hother with
      | quiet => exact hagree
      | delivers delivery tasks queue hdelivers =>
          exact absurd (htasks.trans hdelivers) (hquiet delivery tasks)
  | delivers delivery tasks queue hdelivers hqueue =>
      cases hother with
      | quiet hquiet => exact absurd (htasks.symm.trans hdelivers) (hquiet delivery tasks)
      | delivers same rest row hsame hrow =>
          rw [← htasks, hdelivers] at hsame
          cases hsame
          rcases hstep with hawaits | ⟨_, _, hthese, hawaits⟩
          · exact absurd hdelivers (hawaits.ne_delivering delivery tasks)
          · rw [hdelivers] at hthese
            cases hthese
            exact hagree.delivered routines hawaits (hqueue.trans hrow.symm)

theorem rounds {left : Nat} (hawaits : one.Awaits left) (hone : Rounds routines left one next)
    (hother : Rounds routines left other after) : next.Agree after := by
  refine Rounds.together routines ?_ h hawaits hone hother
  intro one other next after left h hawaits hone hother
  exact h.round hawaits (underway_step_of_awaits routines.handlers hawaits).1 hone hother

theorem operation {operation : Operation} {agenda : List Operation} (htasks : one.tasks = [])
    (hagenda : one.agenda = operation :: agenda)
    (hone : Rounds routines (operation.rounds + 1) one next)
    (hother : Rounds routines (operation.rounds + 1) other after) : next.Agree after := by
  obtain ⟨middle, hmiddle, hnext⟩ := hone
  obtain ⟨between, hbetween, hafter⟩ := hother
  have hstep := (underway_step_of_operation routines.handlers htasks hagenda).1
  have hawaits : one.Awaits 0 := htasks
  exact (h.round hawaits hstep hmiddle hbetween).rounds (hmiddle.awaits routines hstep).1 hnext hafter

end Going

end Agree

/-- Two runs of the same operations agree again whenever an operation has come to its end. -/
theorem exists_agree (order arrangement : Order) (routines : Routines) {one other : Machine}
    (h : one.Agree other) (htasks : one.tasks = []) {before after : List Operation}
    (hagenda : one.agenda = before ++ after) :
    ∃ m n, (runIn order routines.handlers m one).Agree
        (runIn arrangement routines.handlers n other) ∧
      (runIn order routines.handlers m one).tasks = [] ∧
      (runIn order routines.handlers m one).agenda = after := by
  induction before generalizing one other with
  | nil => exact ⟨0, 0, h, htasks, hagenda⟩
  | cons operation before ih =>
      obtain ⟨m, next, hone, rfl, hnext, hrest⟩ :=
        exists_runIn_operation order routines htasks hagenda
      obtain ⟨n, following, hother, rfl, -, -⟩ :=
        exists_runIn_operation arrangement routines (h.tasks_eq.symm.trans htasks)
          (h.agenda_eq.symm.trans hagenda)
      obtain ⟨k, l, hagree, hdone⟩ := ih (h.operation htasks hagenda hone hother) hnext hrest
      refine ⟨m + k, n + l, ?_⟩
      rw [runIn_add, runIn_add]
      exact ⟨hagree, hdone⟩

/-- The order in which handlers are invoked makes no difference. Take an engine in any state and any
sequence of operations, handlers that act and come to an end, and two orders in which those who wait for
a message are gone through. Both runs come to the end of each operation; there the engines are the same,
the operations were answered the same and the transport was called the same; the same handlers were
invoked with the same messages and sent the same frames, each in its order, the same frames were sent
altogether, and the same was logged. -/
theorem orders_interchangeable (routines : Routines) (order arrangement : Order) (engine : Engine)
    (inventory : Inventory) (before after : List Operation) :
    let start : Machine := ⟨engine, inventory, [], [], 0, [], before ++ after, []⟩
    ∃ m n,
      let left := runIn order routines.handlers m start
      let right := runIn arrangement routines.handlers n start
      (left.tasks = [] ∧ left.agenda = after) ∧
        (right.tasks = [] ∧ right.agenda = after) ∧
        left.engine = right.engine ∧
        Events.answersTo none left.history.reverse = Events.answersTo none right.history.reverse ∧
        Events.calls left.history.reverse = Events.calls right.history.reverse ∧
        (Events.invocations left.history.reverse).Perm (Events.invocations right.history.reverse) ∧
        (Events.sent left.history.reverse).Perm (Events.sent right.history.reverse) ∧
        (Events.log left.history.reverse).Perm (Events.log right.history.reverse) := by
  intro start
  have hfresh : start.Fresh := fun _ hmem => absurd hmem List.not_mem_nil
  have hagree : start.Agree start :=
    ⟨rfl, ⟨hfresh, hfresh⟩, rfl, rfl, List.Perm.refl _, List.Perm.refl _, List.Perm.refl _⟩
  obtain ⟨m, n, h, htasks, hagenda⟩ := exists_agree order arrangement routines hagree rfl
    (show start.agenda = before ++ after from rfl)
  exact ⟨m, n, ⟨htasks, hagenda⟩, ⟨h.tasks_eq.symm.trans htasks, h.agenda_eq.symm.trans hagenda⟩,
    h.engine_eq, h.answers, h.calls, h.invocations, h.sent, h.log⟩

end Machine

end Neighbours
