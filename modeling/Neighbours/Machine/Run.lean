import Neighbours.Machine

/-! The steps of a run. A step starts an operation, invokes one handler, performs one step of a
running handler, or ends one of these. A run whose handlers come to an end reaches a machine without
tasks after finitely many steps; one that does not goes on for ever, which is why runs are given a
number of steps. -/

namespace Neighbours.Machine

/-- Starts an operation. Commands, actions and questions are finished at once; the others leave a
task. -/
def begin (machine : Machine) (operation : Operation) : Machine :=
  let machine := machine.record (.began operation)
  match operation with
  | .command command =>
    let effect := machine.engine.run command
    ({ machine with engine := effect.engine }.record
      (.commanded command effect.calls effect.answer)).reply (.command effect.answer)
  | .receive frame point =>
    match machine.takeIn frame point .received with
    | (machine, true) => machine
    | (machine, false) => machine.reply (.received false)
  | .present packet times => machine.push (.presenting packet times)
  | .dispatch arrival => machine.dispatch arrival .dispatched
  | .act slot action =>
    match machine.kept.lookup slot with
    | some handle => (machine.act handle action).reply (.acted (some handle.arrival))
    | none => machine.reply (.acted none)
  | .replaceInventory inventory => { machine with inventory := inventory }.reply .nothing
  | .readSettings => machine.reply (.settings machine.engine.settings)
  | .readRegistrations => machine.reply (.registrations machine.engine.registry)
  | .readApp => machine.reply (.app machine.engine.app)
  | .idle => machine.reply .nothing

/-- Presents a packet once, with `left` presentations to follow: a blocked one is passed over. -/
def present (machine : Machine) (packet : Packet) (left : Nat) : Machine :=
  let machine := (machine.record (.presented packet)).push (.presenting packet left)
  if packet.blocked then machine else (machine.takeIn packet.frame packet.point .presented).1

/-- Lets a handler run on a message, with the script it has for this invocation. -/
def invoke (handlers : Handlers) (machine : Machine) (registration : Registration)
    (handle : Handle) : Machine :=
  let number := machine.invocations
  let script := handlers number registration.handler handle.arrival
  ({ machine.count Stats.countInvoked with invocations := number + 1 }.record
    (.invoked number registration handle)).push (.running ⟨number, registration, handle, script⟩)

/-- Blocks the packet whose presentation is the innermost task. -/
def blockPresented (machine : Machine) : Machine :=
  match machine.tasks with
  | .presenting packet left :: tasks =>
    { machine with tasks := .presenting { packet with blocked := true } left :: tasks }
  | _ => machine

/-- Ends a dispatch: duplicate answers are logged, and whoever asked gets to know. -/
def conclude (machine : Machine) (delivery : Delivery) : Machine :=
  let emissions := machine.emissions.getD delivery.handle.message 0
  let machine :=
    if machine.engine.warnsDuplicates && decide (1 < emissions) then
      machine.log (.duplicates delivery.handle.arrival emissions)
    else machine
  let machine := machine.record (.concluded delivery.handle delivery.invoked)
  match delivery.cause with
  | .received => machine.reply (.received true)
  | .presented => machine.blockPresented
  | .dispatched => machine.reply (.dispatched delivery.invoked)

/-- Ends an invocation. A fault is counted and logged, and stays without further consequence. -/
def finish (machine : Machine) (invocation : Invocation) : Machine :=
  let machine := machine.record
    (.ended invocation.number invocation.registration invocation.script.ending)
  match invocation.script.ending with
  | .normal => machine
  | .failed error =>
    (machine.count Stats.countFault).log (.failed invocation.registration error)
  | .panicked => (machine.count Stats.countFault).log (.panicked invocation.registration)

/-- Performs one step of the innermost running handler. -/
def perform (machine : Machine) (handle : Handle) : Step → Machine
  | .act action => machine.act handle action
  | .keep slot => { machine with kept := (slot, handle) :: machine.kept }
  | .perform operation => machine.begin operation

/-- A machine without tasks takes the next operation from its agenda, if there is one. -/
def step (handlers : Handlers) (machine : Machine) : Machine :=
  match machine.tasks with
  | [] =>
    match machine.agenda with
    | [] => machine
    | operation :: agenda => { machine with agenda := agenda }.begin operation
  | .presenting packet 0 :: tasks => { machine with tasks := tasks }.reply (.presented packet)
  | .presenting packet (left + 1) :: tasks => { machine with tasks := tasks }.present packet left
  | .delivering delivery :: tasks =>
    match delivery.waiting with
    | [] => { machine with tasks := tasks }.conclude delivery
    | registration :: waiting =>
      let delivery := { delivery with waiting := waiting, invoked := delivery.invoked + 1 }
      invoke handlers { machine with tasks := .delivering delivery :: tasks } registration
        delivery.handle
  | .running invocation :: tasks =>
    match invocation.script.steps with
    | [] => { machine with tasks := tasks }.finish invocation
    | step :: steps =>
      let rest := { invocation with script := { invocation.script with steps := steps } }
      { machine with tasks := .running rest :: tasks }.perform invocation.handle step

def steps (handlers : Handlers) : Nat → Machine → Machine
  | 0, machine => machine
  | n + 1, machine => steps handlers n (step handlers machine)

theorem steps_add (handlers : Handlers) (m n : Nat) (machine : Machine) :
    steps handlers (m + n) machine = steps handlers n (steps handlers m machine) := by
  induction m generalizing machine with
  | zero => rw [Nat.zero_add]; rfl
  | succ m ih => rw [Nat.succ_add]; exact ih (step handlers machine)

/-- A machine without tasks and agenda is at rest. -/
theorem step_of_finished (handlers : Handlers) {machine : Machine} (htasks : machine.tasks = [])
    (hagenda : machine.agenda = []) : step handlers machine = machine := by
  unfold step
  rw [htasks, hagenda]

/-- Takes steps until no task is left, at most `limit` of them. -/
def settle (handlers : Handlers) : Nat → Machine → Machine
  | 0, machine => machine
  | limit + 1, machine =>
    if machine.tasks.isEmpty then machine else settle handlers limit (step handlers machine)

/-- Settling is a number of steps. -/
theorem settle_eq_steps (handlers : Handlers) (limit : Nat) (machine : Machine) :
    ∃ n ≤ limit, settle handlers limit machine = steps handlers n machine := by
  induction limit generalizing machine with
  | zero => exact ⟨0, Nat.le_refl 0, rfl⟩
  | succ limit ih =>
    rw [settle]
    split
    · exact ⟨0, Nat.zero_le _, rfl⟩
    · obtain ⟨n, hn, h⟩ := ih (step handlers machine)
      exact ⟨n + 1, Nat.succ_le_succ hn, h⟩

/-- Performs the next operation of the agenda to its end, in at most `limit` steps after its start.
-/
def advance (handlers : Handlers) (limit : Nat) (machine : Machine) : Machine :=
  settle handlers limit (step handlers machine)

/-- The machines reached after each operation of the agenda. -/
def stages (handlers : Handlers) (limit : Nat) : Nat → Machine → List Machine
  | 0, _ => []
  | n + 1, machine =>
    let next := advance handlers limit machine
    next :: stages handlers limit n next

/-- What is reached between operations is reached by a number of steps. -/
theorem exists_steps_of_mem_stages {handlers : Handlers} {limit n : Nat} {machine stage : Machine}
    (h : stage ∈ stages handlers limit n machine) : ∃ m, stage = steps handlers m machine := by
  induction n generalizing machine with
  | zero => cases h
  | succ n ih =>
    obtain ⟨m, -, hsettled⟩ := settle_eq_steps handlers limit (step handlers machine)
    have hadvanced : advance handlers limit machine = steps handlers (m + 1) machine := hsettled
    rcases List.mem_cons.mp h with rfl | hrest
    · exact ⟨m + 1, hadvanced⟩
    · obtain ⟨k, rfl⟩ := ih hrest
      exact ⟨m + 1 + k, by rw [steps_add, hadvanced]⟩

end Neighbours.Machine
