import Neighbours.Proofs.Past

/-! Handlers that act and end. A routine takes some actions and comes to its end; it asks for no
operation and keeps no handle. Where all handlers have routines, an invocation is over before anything
else happens, and a dispatch is a row of invocations: what the steps of a run do one by one can then be
seen as a whole. -/

namespace Neighbours

/-- What a handler does when it is invoked: the actions it takes, in order, and how it ends. -/
structure Routine where
  actions : List Action
  ending : Ending

/-- The routines of handlers, for the name of a handler and the message it is given. -/
abbrev Routines := String → Arrival → Routine

def Routine.script (routine : Routine) : Script :=
  ⟨routine.actions.map .act, routine.ending⟩

def Routines.handlers (routines : Routines) : Handlers := fun _ handler arrival =>
  (routines handler arrival).script

/-- The counters after some frames were sent and some held back. -/
def Stats.transmitted (stats : Stats) (sent held : Nat) : Stats :=
  { stats with
    emitted := stats.emitted + UInt64.ofNat sent
    guarded := stats.guarded + UInt64.ofNat held }

theorem Stats.transmitted_zero (stats : Stats) : stats.transmitted 0 0 = stats := by
  simp [transmitted]

theorem Stats.transmitted_transmitted (stats : Stats) (sent held more less : Nat) :
    (stats.transmitted sent held).transmitted more less =
      stats.transmitted (sent + more) (held + less) := by
  simp [transmitted, UInt64.ofNat_add, UInt64.add_assoc]

section Effects

variable (inventory : Inventory) (arrival : Arrival)

namespace Action

/-- The frames that an action sends: what it tries to, as far as the guard lets it pass. -/
def sent (action : Action) : List Emission :=
  (action.attempts inventory.edges arrival).filter fun emission => inventory.isEdge emission.point

/-- The frames that are held back. -/
def held (action : Action) : List Emission :=
  (action.attempts inventory.edges arrival).filter fun emission => !inventory.isEdge emission.point

theorem stats_foldl_attempt (emissions : List Emission) (transmission : Transmission) :
    (emissions.foldl (Transmission.attempt inventory) transmission).stats =
      transmission.stats.transmitted
        (emissions.filter fun emission => inventory.isEdge emission.point).length
        (emissions.filter fun emission => !inventory.isEdge emission.point).length := by
  induction emissions generalizing transmission with
  | nil => exact transmission.stats.transmitted_zero.symm
  | cons emission rest ih =>
      rw [List.foldl_cons, ih]
      by_cases hedge : inventory.isEdge emission.point = true
      · have hfirst : (transmission.attempt inventory emission).stats =
            transmission.stats.transmitted 1 0 := by
          simp [Transmission.attempt, hedge, Stats.transmitted, Stats.countEmitted]
        simp [hfirst, hedge, Stats.transmitted_transmitted, Nat.add_comm]
      · have hfirst : (transmission.attempt inventory emission).stats =
            transmission.stats.transmitted 0 1 := by
          simp [Transmission.attempt, hedge, Stats.transmitted, Stats.countGuarded]
        simp [hfirst, hedge, Stats.transmitted_transmitted, Nat.add_comm]

theorem perform_eq (stats : Stats) (action : Action) :
    action.perform inventory arrival stats =
      ⟨stats.transmitted (action.sent inventory arrival).length
          (action.held inventory arrival).length,
        action.sent inventory arrival⟩ := by
  have hsent : (action.perform inventory arrival stats).sent = action.sent inventory arrival :=
    Transmission.sent_foldl_attempt inventory _ _
  have hstats := stats_foldl_attempt inventory (action.attempts inventory.edges arrival) ⟨stats, []⟩
  show Transmission.mk (action.perform inventory arrival stats).stats
    (action.perform inventory arrival stats).sent = _
  rw [hsent]
  exact congrArg (Transmission.mk · _) hstats

end Action

namespace Routine

/-- The frames that a routine sends, in order. -/
def sent (routine : Routine) : List Emission :=
  routine.actions.flatMap (·.sent inventory arrival)

def held (routine : Routine) : List Emission :=
  routine.actions.flatMap (·.held inventory arrival)

/-- How many actions of a routine send something. -/
def emissions (routine : Routine) : Nat :=
  routine.actions.countP fun action => !(action.sent inventory arrival).isEmpty

/-- The events of the actions of a routine, in order. -/
def deeds (routine : Routine) (number : Nat) (handle : Handle) : List Event :=
  routine.actions.map fun action =>
    .acted (some number) handle action inventory (action.sent inventory handle.arrival)

/-- The counters after an invocation. -/
def counted (routine : Routine) (stats : Stats) : Stats :=
  let stats := stats.countInvoked.transmitted (routine.sent inventory arrival).length
    (routine.held inventory arrival).length
  if routine.ending.isFault then stats.countFault else stats

/-- The events of an invocation, in order. -/
def trace (routine : Routine) (number : Nat) (registration : Registration) (handle : Handle) :
    List Event :=
  .invoked number registration handle :: (routine.deeds inventory number handle ++
    .ended number registration routine.ending ::
      (routine.ending.entry? registration).toList.map .logged)

theorem reverse_trace (routine : Routine) (number : Nat) (registration : Registration)
    (handle : Handle) (past : List Event) :
    (routine.trace inventory number registration handle).reverse ++ past =
      (routine.ending.entry? registration).toList.map .logged ++
        .ended number registration routine.ending ::
          ((routine.deeds inventory number handle).reverse ++
            .invoked number registration handle :: past) := by
  cases hending : routine.ending <;> simp [trace, hending, Ending.entry?]

end Routine

end Effects

namespace Machine

variable (machine : Machine)

/-- The machine after all actions of a routine. -/
def taken (number : Nat) (handle : Handle) (routine : Routine) : Machine :=
  { machine with
    engine := { machine.engine with
      stats := machine.engine.stats.transmitted
        (routine.sent machine.inventory handle.arrival).length
        (routine.held machine.inventory handle.arrival).length }
    emissions := machine.emissions.modify handle.message
      (· + routine.emissions machine.inventory handle.arrival)
    history := (routine.deeds machine.inventory number handle).reverse ++ machine.history }

/-- The machine after one invocation. -/
def attended (routines : Routines) (handle : Handle) (registration : Registration) : Machine :=
  let routine := routines registration.handler handle.arrival
  { machine with
    engine := { machine.engine with
      stats := routine.counted machine.inventory handle.arrival machine.engine.stats }
    emissions := machine.emissions.modify handle.message
      (· + routine.emissions machine.inventory handle.arrival)
    invocations := machine.invocations + 1
    history := (routine.trace machine.inventory machine.invocations registration handle).reverse ++
      machine.history }

/-- The machine after a row of invocations. -/
def attendedBy (routines : Routines) (handle : Handle) (queue : List Registration) : Machine :=
  queue.foldl (fun machine registration => machine.attended routines handle registration) machine

/-- The same machine with other work in progress. -/
def withTasks (tasks : List Task) : Machine :=
  { machine with tasks := tasks }

variable {machine}

theorem taken_nil (number : Nat) (handle : Handle) (ending : Ending) :
    machine.taken number handle ⟨[], ending⟩ = machine := by
  have hemissions : machine.emissions.modify handle.message (· + 0) = machine.emissions :=
    List.modify_id _ _
  simp only [taken, Routine.sent, Routine.held, Routine.emissions, Routine.deeds,
    List.flatMap_nil, List.length_nil, List.countP_nil, hemissions, Stats.transmitted_zero]
  rfl

/-- One action is taken, and then the others. -/
theorem taken_cons (number : Nat) (handle : Handle) (action : Action) (actions : List Action)
    (ending : Ending) :
    machine.taken number handle ⟨action :: actions, ending⟩ =
      (machine.taken number handle ⟨[action], ending⟩).taken number handle ⟨actions, ending⟩ := by
  have hemissions : (machine.emissions.modify handle.message
        (· + Routine.emissions machine.inventory handle.arrival ⟨action :: actions, ending⟩)) =
      (machine.emissions.modify handle.message
        (· + Routine.emissions machine.inventory handle.arrival ⟨[action], ending⟩)).modify
          handle.message
            (· + Routine.emissions machine.inventory handle.arrival ⟨actions, ending⟩) := by
    rw [List.modify_modify_eq]
    congr 1
    funext count
    simp only [Routine.emissions, List.countP_cons, List.countP_nil, Function.comp_apply]
    omega
  simp only [taken, hemissions]
  simp [Routine.sent, Routine.held, Routine.deeds, Stats.transmitted_transmitted]

theorem act_of_runner {number : Nat} (hrunner : machine.runner? = some number) (handle : Handle)
    (action : Action) (ending : Ending) :
    machine.act handle action = machine.taken number handle ⟨[action], ending⟩ := by
  have hemissions : (if (action.sent machine.inventory handle.arrival).isEmpty then machine.emissions
        else machine.emissions.modify handle.message (· + 1)) =
      machine.emissions.modify handle.message
        (· + Routine.emissions machine.inventory handle.arrival ⟨[action], ending⟩) := by
    cases hempty : (action.sent machine.inventory handle.arrival).isEmpty with
    | true =>
        simp only [Routine.emissions, List.countP_cons, List.countP_nil, hempty]
        exact (List.modify_id _ _).symm
    | false => simp [Routine.emissions, hempty]
  simp only [act, Action.perform_eq, hrunner, hemissions]
  simp [taken, record, Routine.sent, Routine.held, Routine.deeds]

section Running

variable (order : Order) (routines : Routines) {number : Nat} {registration : Registration}
variable {handle : Handle} {ending : Ending} {tasks : List Task} (machine : Machine)

/-- A running handler takes its actions one by one. -/
theorem runIn_actions (actions : List Action) :
    runIn order routines.handlers actions.length (machine.withTasks
        (.running ⟨number, registration, handle, ⟨actions.map .act, ending⟩⟩ :: tasks)) =
      (machine.taken number handle ⟨actions, ending⟩).withTasks
        (.running ⟨number, registration, handle, ⟨[], ending⟩⟩ :: tasks) := by
  induction actions generalizing machine with
  | nil => rw [taken_nil]; rfl
  | cons action actions ih =>
      have hstep : stepIn order routines.handlers (machine.withTasks (.running
            ⟨number, registration, handle, ⟨(action :: actions).map .act, ending⟩⟩ :: tasks)) =
          (machine.taken number handle ⟨[action], ending⟩).withTasks
            (.running ⟨number, registration, handle, ⟨actions.map .act, ending⟩⟩ :: tasks) := by
        have hact := @act_of_runner (machine.withTasks
          (.running ⟨number, registration, handle, ⟨actions.map .act, ending⟩⟩ :: tasks))
          number rfl handle action ending
        exact congrArg (arrange order) hact
      rw [List.length_cons, runIn, hstep, ih, ← taken_cons]

/-- An invocation is over before anything else happens. -/
theorem exists_runIn_attended (delivery : Delivery) {waiting : List Registration}
    (hwaiting : delivery.waiting = registration :: waiting) :
    ∃ n, runIn order routines.handlers n (machine.withTasks (.delivering delivery :: tasks)) =
      (machine.attended routines delivery.handle registration).withTasks
        (.delivering (order.arrangeDelivery
          { delivery with waiting := waiting, invoked := delivery.invoked + 1 }) :: tasks) := by
  obtain ⟨handle, cause, _, invoked⟩ := delivery
  cases hwaiting
  -- One step starts the invocation, one step is taken for each action, and one ends it.
  let called : Machine :=
    { machine.count Stats.countInvoked with invocations := machine.invocations + 1 }.record
      (.invoked machine.invocations registration handle)
  have hcalled : stepIn order routines.handlers
        (machine.withTasks (.delivering ⟨handle, cause, registration :: waiting, invoked⟩ :: tasks)) =
      called.withTasks (.running ⟨machine.invocations, registration, handle,
          (routines registration.handler handle.arrival).script⟩ ::
        .delivering ⟨handle, cause, waiting, invoked + 1⟩ :: tasks) := rfl
  cases hroutine : routines registration.handler handle.arrival with
  | mk actions ending =>
      refine ⟨actions.length + 1 + 1, ?_⟩
      rw [runIn, hcalled, hroutine, runIn_succ, Routine.script, runIn_actions]
      simp only [attended, hroutine, Routine.reverse_trace]
      cases ending <;> rfl

/-- A dispatch is a row of invocations: whoever comes next, all who wait are invoked, and then it is
over. -/
theorem exists_runIn_attendedBy (delivery : Delivery) :
    ∃ n queue, queue.Perm delivery.waiting ∧
      runIn order routines.handlers n (machine.withTasks (.delivering delivery :: tasks)) =
        (((machine.attendedBy routines delivery.handle queue).withTasks tasks).conclude
          { delivery with waiting := [], invoked := delivery.invoked + queue.length }).arrange
            order := by
  -- Those who wait stand in a new order after each invocation: the induction is on how many they are.
  induction hlength : delivery.waiting.length generalizing machine delivery with
  | zero =>
      have hwaiting : delivery.waiting = [] := List.length_eq_zero_iff.mp hlength
      obtain ⟨handle, cause, waiting, invoked⟩ := delivery
      cases hwaiting
      exact ⟨1, [], List.Perm.refl _, rfl⟩
  | succ length ih =>
      obtain ⟨registration, waiting, hwaiting⟩ := List.exists_cons_of_length_eq_add_one hlength
      obtain ⟨m, hm⟩ := @exists_runIn_attended order routines registration tasks machine delivery
        waiting hwaiting
      have harranged := order.perm delivery.handle.message waiting
      have hshorter : (order.arrange delivery.handle.message waiting).length = length := by
        rw [harranged.length_eq]
        rw [hwaiting, List.length_cons] at hlength
        exact Nat.succ.inj hlength
      obtain ⟨n, queue, hqueue, hn⟩ := ih (machine.attended routines delivery.handle registration)
        (order.arrangeDelivery { delivery with waiting := waiting, invoked := delivery.invoked + 1 })
        hshorter
      refine ⟨m + n, registration :: queue, ?_, ?_⟩
      · rw [hwaiting]
        exact (hqueue.trans harranged).cons registration
      · rw [runIn_add, hm, hn, List.length_cons, Nat.add_comm queue.length 1, ← Nat.add_assoc]
        rfl

end Running

end Machine

/-! What an invocation leaves behind, and what a row of invocations does. -/

namespace Routine

variable (routine : Routine) (inventory : Inventory) {number : Nat} {registration : Registration}
variable {handle : Handle}

theorem number?_of_mem_trace {event : Event}
    (h : event ∈ routine.trace inventory number registration handle) {given : Nat}
    (hgiven : event.number? = some given) : given = number := by
  have hnumber : event.number? = some number ∨ event.number? = none := by
    rcases List.mem_cons.mp h with rfl | h
    · exact Or.inl rfl
    · rcases List.mem_append.mp h with h | h
      · obtain ⟨action, -, rfl⟩ := List.mem_map.mp h
        exact Or.inl rfl
      · rcases List.mem_cons.mp h with rfl | h
        · exact Or.inl rfl
        · obtain ⟨entry, -, rfl⟩ := List.mem_map.mp h
          exact Or.inr rfl
  rcases hnumber with h | h
  · rw [h] at hgiven
    exact (Option.some.inj hgiven).symm
  · rw [h] at hgiven
    cases hgiven

theorem sent_trace :
    Events.sent (routine.trace inventory number registration handle) =
      routine.sent inventory handle.arrival := by
  cases hentry : routine.ending.entry? registration <;>
    simp [trace, Events.sent, deeds, sent, List.flatMap_map, hentry]

theorem sentBy_trace :
    Events.sentBy (some number) (routine.trace inventory number registration handle) =
      routine.sent inventory handle.arrival := by
  cases hentry : routine.ending.entry? registration <;>
    simp [trace, Events.sentBy, deeds, sent, List.flatMap_map, hentry]

theorem log_trace :
    Events.log (routine.trace inventory number registration handle) =
      (routine.ending.entry? registration).toList := by
  cases hentry : routine.ending.entry? registration <;>
    simp [trace, Events.log, deeds, List.filterMap_map, hentry]

theorem calls_trace :
    Events.calls (routine.trace inventory number registration handle) = [] := by
  cases hentry : routine.ending.entry? registration <;>
    simp [trace, Events.calls, deeds, List.flatMap_map, hentry]

theorem answersTo_trace (runner : Option Nat) :
    Events.answersTo runner (routine.trace inventory number registration handle) = [] := by
  cases hentry : routine.ending.entry? registration <;>
    simp [trace, Events.answersTo, deeds, List.filterMap_map, hentry]

/-- Of the events of an invocation, the first alone starts one. -/
theorem filterMap_trace {α : Type} {read? : Event → Option α}
    (hothers : ∀ event : Event, (∀ number registration handle, event ≠ .invoked number registration
      handle) → read? event = none) :
    (routine.trace inventory number registration handle).filterMap read? =
      (read? (.invoked number registration handle)).toList := by
  have hnone : (routine.deeds inventory number handle ++
      Event.ended number registration routine.ending ::
        (routine.ending.entry? registration).toList.map Event.logged).filterMap read? = [] := by
    refine List.filterMap_eq_nil_iff.mpr fun event hmem => hothers event ?_
    rintro _ _ _ rfl
    simp [deeds] at hmem
  rw [trace, List.filterMap_cons, hnone]
  cases read? (.invoked number registration handle) <;> rfl

theorem invocations_trace :
    Events.invocations (routine.trace inventory number registration handle) =
      [⟨registration, handle.arrival, routine.sent inventory handle.arrival, []⟩] := by
  rw [Events.invocations, filterMap_trace]
  · show [InvocationReport.mk _ _ _ _] = _
    rw [sentBy_trace, answersTo_trace]
  · intro event hevent
    cases event with
    | invoked number registration handle => exact absurd rfl (hevent number registration handle)
    | _ => rfl

end Routine

/-- What is reported of an invocation. -/
def Routines.report (routines : Routines) (inventory : Inventory) (arrival : Arrival)
    (registration : Registration) : InvocationReport :=
  ⟨registration, arrival, (routines registration.handler arrival).sent inventory arrival, []⟩

namespace Machine

variable {machine : Machine} {routines : Routines} {handle : Handle}

theorem history_attended (registration : Registration) :
    (machine.attended routines handle registration).history.reverse = machine.history.reverse ++
      (routines registration.handler handle.arrival).trace machine.inventory machine.invocations
        registration handle := by
  simp [attended]

theorem Fresh.attended (h : machine.Fresh) (registration : Registration) :
    (machine.attended routines handle registration).Fresh := by
  intro event hmem number hnumber
  rcases List.mem_append.mp hmem with hnew | hold
  · have heq := Routine.number?_of_mem_trace _ _ (List.mem_reverse.mp hnew) hnumber
    exact Nat.lt_succ_of_le (Nat.le_of_eq heq)
  · exact Nat.lt_succ_of_lt (h event hold number hnumber)

theorem invocations_attended (h : machine.Fresh) (registration : Registration) :
    Events.invocations (machine.attended routines handle registration).history.reverse =
      Events.invocations machine.history.reverse ++
        [routines.report machine.inventory handle.arrival registration] := by
  have hold : ∀ event ∈ machine.history.reverse, ∀ given, event.number? = some given →
      given < machine.invocations := fun event hmem => h event (List.mem_reverse.mp hmem)
  have hnew : ∀ event ∈ (routines registration.handler handle.arrival).trace machine.inventory
      machine.invocations registration handle, ∀ given, event.number? = some given →
        machine.invocations ≤ given := fun event hmem given hgiven =>
    Nat.le_of_eq (Routine.number?_of_mem_trace _ _ hmem hgiven).symm
  rw [history_attended, Events.invocations_append hold hnew, Routine.invocations_trace]
  rfl

section Row

variable (queue : List Registration)

/-- What is preserved by every invocation is preserved by a row of them. -/
theorem attendedBy_preserve (holds : Machine → Prop)
    (hone : ∀ machine registration, holds machine →
      holds (machine.attended routines handle registration)) (h : holds machine) :
    holds (machine.attendedBy routines handle queue) := by
  induction queue generalizing machine with
  | nil => exact h
  | cons registration queue ih => exact ih (hone machine registration h)

/-- A row of invocations governs nothing, keeps no handle and leaves the work in progress as it is. -/
theorem attendedBy_frame :
    (machine.attendedBy routines handle queue).engine.registry = machine.engine.registry ∧
      (machine.attendedBy routines handle queue).inventory = machine.inventory ∧
      (machine.attendedBy routines handle queue).kept = machine.kept ∧
      (machine.attendedBy routines handle queue).tasks = machine.tasks ∧
      (machine.attendedBy routines handle queue).agenda = machine.agenda :=
  attendedBy_preserve queue (fun after => after.engine.registry = machine.engine.registry ∧
    after.inventory = machine.inventory ∧ after.kept = machine.kept ∧
      after.tasks = machine.tasks ∧ after.agenda = machine.agenda) (fun _ _ h => h)
    ⟨rfl, rfl, rfl, rfl, rfl⟩

theorem Fresh.attendedBy (h : machine.Fresh) : (machine.attendedBy routines handle queue).Fresh :=
  attendedBy_preserve queue Fresh (fun _ registration h => h.attended registration) h

/-- What grows with every invocation grows along a row of them. -/
theorem attendedBy_gather {α : Type} (gather : List Event → List α)
    (gain : Inventory → Registration → List α)
    (hone : ∀ (machine : Machine) (registration : Registration), machine.Fresh →
      gather (machine.attended routines handle registration).history.reverse =
        gather machine.history.reverse ++ gain machine.inventory registration)
    (h : machine.Fresh) :
    gather (machine.attendedBy routines handle queue).history.reverse =
      gather machine.history.reverse ++ queue.flatMap (gain machine.inventory) := by
  induction queue generalizing machine with
  | nil => exact (List.append_nil _).symm
  | cons registration queue ih =>
      have hrest := @ih (machine.attended routines handle registration) (h.attended registration)
      rw [hone machine registration h, List.append_assoc] at hrest
      exact hrest

theorem invocations_attendedBy (h : machine.Fresh) :
    Events.invocations (machine.attendedBy routines handle queue).history.reverse =
      Events.invocations machine.history.reverse ++
        queue.map (routines.report machine.inventory handle.arrival) := by
  rw [List.map_eq_flatMap]
  exact attendedBy_gather queue Events.invocations
    (fun inventory registration => [routines.report inventory handle.arrival registration])
    (fun _ registration h => invocations_attended h registration) h

theorem sent_attendedBy (h : machine.Fresh) :
    Events.sent (machine.attendedBy routines handle queue).history.reverse =
      Events.sent machine.history.reverse ++ queue.flatMap fun registration =>
        (routines registration.handler handle.arrival).sent machine.inventory handle.arrival := by
  refine attendedBy_gather queue Events.sent (fun inventory registration =>
    (routines registration.handler handle.arrival).sent inventory handle.arrival) ?_ h
  intro machine registration _
  rw [history_attended, Events.sent_append, Routine.sent_trace]

theorem log_attendedBy (h : machine.Fresh) :
    Events.log (machine.attendedBy routines handle queue).history.reverse =
      Events.log machine.history.reverse ++ queue.flatMap fun registration =>
        ((routines registration.handler handle.arrival).ending.entry? registration).toList := by
  refine attendedBy_gather queue Events.log (fun _ registration =>
    ((routines registration.handler handle.arrival).ending.entry? registration).toList) ?_ h
  intro machine registration _
  rw [history_attended, Events.log_append, Routine.log_trace]

theorem calls_attendedBy :
    Events.calls (machine.attendedBy routines handle queue).history.reverse =
      Events.calls machine.history.reverse := by
  refine attendedBy_preserve queue (fun after =>
    Events.calls after.history.reverse = Events.calls machine.history.reverse) ?_ rfl
  intro after registration h
  rw [history_attended, Events.calls_append, Routine.calls_trace, List.append_nil, h]

theorem answersTo_attendedBy (runner : Option Nat) :
    Events.answersTo runner (machine.attendedBy routines handle queue).history.reverse =
      Events.answersTo runner machine.history.reverse := by
  refine attendedBy_preserve queue (fun after =>
    Events.answersTo runner after.history.reverse =
      Events.answersTo runner machine.history.reverse) ?_ rfl
  intro after registration h
  rw [history_attended, Events.answersTo_append, Routine.answersTo_trace, List.append_nil, h]

end Row

end Machine

end Neighbours
