import Neighbours.Proofs.Routine

/-! Rounds. Where all handlers have routines, nothing is left open between one dispatch and the next. A
run goes on in rounds: one step and, if that begins a dispatch, the whole dispatch. An operation that
presents a packet takes a round for each presentation, any other operation takes one round. -/

namespace Neighbours

/-- The rounds that an operation takes after its first. -/
def Operation.rounds : Operation → Nat
  | .present _ times => times + 1
  | _ => 0

namespace Machine

/-- Nothing is going on but an operation that takes a number of rounds more: if any, it presents a
packet. -/
def Awaits (machine : Machine) : Nat → Prop
  | 0 => machine.tasks = []
  | left + 1 => ∃ packet, machine.tasks = [.presenting packet left]

/-- The same, but a dispatch may just have begun. -/
def Underway (machine : Machine) (left : Nat) : Prop :=
  machine.Awaits left ∨
    ∃ delivery tasks, machine.tasks = .delivering delivery :: tasks ∧
      (machine.withTasks tasks).Awaits left

/-- The machine after a dispatch has been gone through. -/
def delivered (machine : Machine) (routines : Routines) (delivery : Delivery) (tasks : List Task)
    (queue : List Registration) : Machine :=
  ((machine.attendedBy routines delivery.handle queue).withTasks tasks).conclude
    { delivery with waiting := [], invoked := delivery.invoked + queue.length }

/-- What a round can lead to: if it begins a dispatch, those who wait are gone through in some order. -/
inductive Round (routines : Routines) (machine : Machine) : Machine → Prop
  | quiet (hquiet : ∀ delivery tasks,
      (step routines.handlers machine).tasks ≠ .delivering delivery :: tasks) :
    Round routines machine (step routines.handlers machine)
  | delivers (delivery : Delivery) (tasks : List Task) (queue : List Registration)
      (htasks : (step routines.handlers machine).tasks = .delivering delivery :: tasks)
      (hqueue : queue.Perm delivery.waiting) :
    Round routines machine ((step routines.handlers machine).delivered routines delivery tasks queue)

/-- What several rounds can lead to. -/
def Rounds (routines : Routines) : Nat → Machine → Machine → Prop
  | 0, machine, after => after = machine
  | n + 1, machine, after => ∃ middle, Round routines machine middle ∧ Rounds routines n middle after

section Awaiting

variable {machine : Machine} {left : Nat}

theorem Awaits.tasks_cases (h : machine.Awaits left) :
    machine.tasks = [] ∨ ∃ packet left, machine.tasks = [.presenting packet left] := by
  cases left with
  | zero => exact Or.inl h
  | succ left =>
      obtain ⟨packet, htasks⟩ := h
      exact Or.inr ⟨packet, left, htasks⟩

/-- Nothing that awaits rounds runs a handler. -/
theorem Awaits.runner?_eq_none (h : machine.Awaits left) : machine.runner? = none := by
  rcases h.tasks_cases with htasks | ⟨packet, left, htasks⟩
  · rw [runner?, htasks]
    rfl
  · rw [runner?, htasks]
    rfl

theorem Awaits.ne_delivering (h : machine.Awaits left) (delivery : Delivery) (tasks : List Task) :
    machine.tasks ≠ .delivering delivery :: tasks := by
  intro hdelivering
  rcases h.tasks_cases with htasks | ⟨packet, left, htasks⟩
  · cases htasks.symm.trans hdelivering
  · cases htasks.symm.trans hdelivering

theorem Awaits.arrange (h : machine.Awaits left) (order : Order) : machine.arrange order = machine := by
  have hsame : order.arrangeTasks machine.tasks = machine.tasks := by
    rcases h.tasks_cases with htasks | ⟨packet, left, htasks⟩
    · rw [htasks]
      rfl
    · rw [htasks]
      rfl
  rw [Machine.arrange, hsame]

theorem Awaits.conclude (h : machine.Awaits left) (delivery : Delivery) :
    (machine.conclude delivery).Awaits left := by
  rw [conclude_eq]
  cases left with
  | zero =>
      show delivery.cause.settle machine.tasks = []
      rw [show machine.tasks = [] from h]
      cases delivery.cause <;> rfl
  | succ left =>
      obtain ⟨packet, htasks⟩ := h
      show ∃ packet, delivery.cause.settle machine.tasks = [.presenting packet left]
      rw [htasks]
      cases delivery.cause with
      | presented => exact ⟨{ packet with blocked := true }, rfl⟩
      | _ => exact ⟨packet, rfl⟩

theorem Awaits.of_tasks {other : Machine} (h : machine.Awaits left)
    (htasks : other.tasks = machine.tasks) : other.Awaits left := by
  cases left with
  | zero => exact htasks.trans h
  | succ left =>
      obtain ⟨packet, hpresenting⟩ := h
      exact ⟨packet, htasks.trans hpresenting⟩

end Awaiting

section Going

variable {machine : Machine} {left : Nat}

/-- The first step of an operation. -/
theorem underway_begin (htasks : machine.tasks = []) (operation : Operation) :
    (machine.begin operation).Underway operation.rounds := by
  cases operation with
  | command command => exact Or.inl htasks
  | receive frame point =>
      simp only [Machine.begin, Machine.takeIn]
      cases Arrival.ofFrame? frame point with
      | none => exact Or.inl htasks
      | some arrival => exact Or.inr ⟨_, _, rfl, htasks⟩
  | present packet times =>
      refine Or.inl ⟨packet, ?_⟩
      show .presenting packet times :: machine.tasks = _
      rw [htasks]
  | dispatch arrival => exact Or.inr ⟨_, _, rfl, htasks⟩
  | act slot action =>
      simp only [Machine.begin]
      split <;> exact Or.inl htasks
  | _ => exact Or.inl htasks

theorem agenda_begin (operation : Operation) : (machine.begin operation).agenda = machine.agenda := by
  cases operation with
  | receive frame point =>
      simp only [Machine.begin, Machine.takeIn]
      cases Arrival.ofFrame? frame point <;> rfl
  | act slot action =>
      simp only [Machine.begin]
      split <;> rfl
  | _ => rfl

/-- One presentation of a packet. -/
theorem underway_present (htasks : machine.tasks = []) (packet : Packet) :
    (machine.present packet left).Underway (left + 1) ∧
      (machine.present packet left).agenda = machine.agenda := by
  have hshown : ((machine.record (.presented packet)).push (.presenting packet left)).Awaits
      (left + 1) := by
    refine ⟨packet, ?_⟩
    show .presenting packet left :: machine.tasks = _
    rw [htasks]
  simp only [Machine.present, Machine.takeIn]
  split
  · exact ⟨Or.inl hshown, rfl⟩
  · cases Arrival.ofFrame? packet.frame packet.point with
    | none => exact ⟨Or.inl (hshown.of_tasks rfl), rfl⟩
    | some arrival => exact ⟨Or.inr ⟨_, _, rfl, hshown.of_tasks rfl⟩, rfl⟩

variable (handlers : Handlers)

theorem step_of_operation {operation : Operation} {agenda : List Operation}
    (htasks : machine.tasks = []) (hagenda : machine.agenda = operation :: agenda) :
    step handlers machine = { machine with agenda := agenda }.begin operation := by
  rw [step, htasks]
  simp only [hagenda]

theorem underway_step_of_operation {operation : Operation} {agenda : List Operation}
    (htasks : machine.tasks = []) (hagenda : machine.agenda = operation :: agenda) :
    (step handlers machine).Underway operation.rounds ∧ (step handlers machine).agenda = agenda := by
  rw [step_of_operation handlers htasks hagenda]
  exact ⟨@underway_begin { machine with agenda := agenda } htasks operation, agenda_begin operation⟩

theorem underway_step_of_awaits (h : machine.Awaits (left + 1)) :
    (step handlers machine).Underway left ∧ (step handlers machine).agenda = machine.agenda := by
  obtain ⟨packet, htasks⟩ := h
  cases left with
  | zero =>
      rw [step, htasks]
      exact ⟨Or.inl rfl, rfl⟩
  | succ left =>
      rw [step, htasks]
      exact @underway_present { machine with tasks := [] } left rfl packet

/-- While an operation awaits rounds, a step tells of no invocation. -/
theorem Awaits.unnumbered_step (h : machine.Awaits left) (hunnumbered : machine.Unnumbered) :
    (step handlers machine).Unnumbered := by
  have hrunner := h.runner?_eq_none
  cases left with
  | zero =>
      cases hagenda : machine.agenda with
      | nil =>
          rw [step_of_finished handlers h hagenda]
          exact hunnumbered
      | cons operation agenda =>
          rw [step_of_operation handlers h hagenda]
          exact @Unnumbered.begin { machine with agenda := agenda } hunnumbered hrunner operation
  | succ left =>
      obtain ⟨packet, htasks⟩ := h
      rw [step, htasks]
      cases left with
      | zero => exact @Unnumbered.reply { machine with tasks := [] } hunnumbered rfl _
      | succ left => exact @Unnumbered.present { machine with tasks := [] } hunnumbered packet left

/-- A step starts an invocation or it does not. -/
theorem invocations_le_step (machine : Machine) :
    machine.invocations ≤ (step handlers machine).invocations := by
  suffices hturn : ∀ before after : Outline, before.Turn handlers after →
      before.invocations ≤ after.invocations from hturn _ _ (step_turn handlers machine)
  intro before after hturn
  cases hturn with
  | invokes => exact Nat.le_succ _
  | _ => exact Nat.le_refl _

end Going

section Going

variable (order : Order) (routines : Routines) {machine : Machine} {left : Nat}

theorem Awaits.delivered {delivery : Delivery} {tasks : List Task}
    (h : (machine.withTasks tasks).Awaits left) (queue : List Registration) :
    (machine.delivered routines delivery tasks queue).Awaits left ∧
      (machine.delivered routines delivery tasks queue).agenda = machine.agenda := by
  have hrow : ((machine.attendedBy routines delivery.handle queue).withTasks tasks).Awaits left :=
    h.of_tasks rfl
  refine ⟨hrow.conclude _, ?_⟩
  rw [Machine.delivered, conclude_eq]
  exact (attendedBy_frame queue).2.2.2.2

/-- After a round an operation takes one round less. -/
theorem Round.awaits {after : Machine} (hstep : (step routines.handlers machine).Underway left)
    (hround : Round routines machine after) :
    after.Awaits left ∧ after.agenda = (step routines.handlers machine).agenda := by
  cases hround with
  | quiet hquiet =>
      rcases hstep with hawaits | ⟨delivery, tasks, htasks, -⟩
      · exact ⟨hawaits, rfl⟩
      · exact absurd htasks (hquiet delivery tasks)
  | delivers delivery tasks queue htasks hqueue =>
      rcases hstep with hawaits | ⟨other, rest, hother, hawaits⟩
      · exact absurd htasks (hawaits.ne_delivering delivery tasks)
      · rw [htasks] at hother
        cases hother
        exact hawaits.delivered routines queue

/-- What two machines keep in common from round to round, they have in common when the operation under
way has come to its end. -/
theorem Rounds.together {common : Machine → Machine → Prop}
    (hround : ∀ {one other next after : Machine} {left : Nat}, common one other →
      one.Awaits (left + 1) → Round routines one next → Round routines other after →
        common next after)
    {one other next after : Machine} (h : common one other) (hawaits : one.Awaits left)
    (hone : Rounds routines left one next) (hother : Rounds routines left other after) :
    common next after := by
  induction left generalizing one other with
  | zero =>
      cases hone
      cases hother
      exact h
  | succ left ih =>
      obtain ⟨middle, hmiddle, hnext⟩ := hone
      obtain ⟨between, hbetween, hafter⟩ := hother
      have hstep := (underway_step_of_awaits routines.handlers hawaits).1
      exact ih (hround h hawaits hmiddle hbetween) (hmiddle.awaits routines hstep).1 hnext hafter

/-- A run goes on by a round. -/
theorem exists_runIn_round (hstep : (step routines.handlers machine).Underway left) :
    ∃ n after, Round routines machine after ∧ runIn order routines.handlers n machine = after := by
  rcases hstep with hawaits | ⟨delivery, tasks, htasks, hawaits⟩
  · refine ⟨1, _, .quiet hawaits.ne_delivering, ?_⟩
    exact hawaits.arrange order
  · have hfirst : stepIn order routines.handlers machine =
        (step routines.handlers machine).withTasks
          (.delivering (order.arrangeDelivery delivery) :: tasks) := by
      rw [stepIn, arrange, htasks]
      rfl
    obtain ⟨n, queue, hqueue, hn⟩ := @exists_runIn_attendedBy order routines tasks
      (step routines.handlers machine) (order.arrangeDelivery delivery)
    refine ⟨n + 1, _, .delivers delivery tasks queue htasks
      (hqueue.trans (order.perm delivery.handle.message delivery.waiting)), ?_⟩
    rw [runIn, hfirst, hn]
    exact (hawaits.delivered routines queue).1.arrange order

/-- An operation that is under way comes to its end. -/
theorem exists_runIn_rounds (h : machine.Awaits left) :
    ∃ n after, Rounds routines left machine after ∧ runIn order routines.handlers n machine = after ∧
      after.tasks = [] ∧ after.agenda = machine.agenda := by
  induction left generalizing machine with
  | zero => exact ⟨0, machine, rfl, rfl, h, rfl⟩
  | succ left ih =>
      obtain ⟨hstep, hagenda⟩ := underway_step_of_awaits routines.handlers h
      obtain ⟨m, middle, hround, hm⟩ := exists_runIn_round order routines hstep
      obtain ⟨hawaits, hmiddle⟩ := hround.awaits routines hstep
      obtain ⟨n, after, hrounds, hn, htasks, hafter⟩ := ih hawaits
      refine ⟨m + n, after, ⟨middle, hround, hrounds⟩, ?_, htasks, ?_⟩
      · rw [runIn_add, hm, hn]
      · rw [hafter, hmiddle, hagenda]

/-- The next operation comes to its end. -/
theorem exists_runIn_operation {operation : Operation} {agenda : List Operation}
    (htasks : machine.tasks = []) (hagenda : machine.agenda = operation :: agenda) :
    ∃ n after, Rounds routines (operation.rounds + 1) machine after ∧
      runIn order routines.handlers n machine = after ∧ after.tasks = [] ∧ after.agenda = agenda := by
  obtain ⟨hstep, hrest⟩ := underway_step_of_operation routines.handlers htasks hagenda
  obtain ⟨m, middle, hround, hm⟩ := exists_runIn_round order routines hstep
  obtain ⟨hawaits, hmiddle⟩ := hround.awaits routines hstep
  obtain ⟨n, after, hrounds, hn, htasks, hafter⟩ := exists_runIn_rounds order routines hawaits
  refine ⟨m + n, after, ⟨middle, hround, hrounds⟩, ?_, htasks, ?_⟩
  · rw [runIn_add, hm, hn]
  · rw [hafter, hmiddle, hrest]

end Going

end Machine

end Neighbours
