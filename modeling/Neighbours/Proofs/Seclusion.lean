import Neighbours.Proofs.Rounds
import Neighbours.Proofs.Tally

/-! Applications and each other. What is registered for one application, and when, makes no difference
to the others: a run is compared with the run from which every operation made for that application has
been left out. -/

namespace Neighbours

/-- An operation by which an application governs its own registrations. -/
def Operation.isMadeFor (owner : App) : Operation → Bool
  | .command (.insert _ registration) => registration.app == owner
  | .command (.erase _ registration) => registration.app == owner
  | .command (.eraseApp app) => app == owner
  | _ => false

/-- Answers that tell what became of a frame. -/
def Answer.isDisposition : Answer → Bool
  | .received _ | .presented _ => true
  | _ => false

/-- The registrations of other applications, with their attachment points. -/
def Registry.others (registry : Registry) (owner : App) : Finset (Point × Registration) :=
  registry.toFinset.filter fun pair => pair.2.app ≠ owner

def Registration.isOther (owner : App) (registration : Registration) : Bool :=
  registration.app != owner

namespace Events

/-- The invocations of handlers that are registered for other applications. -/
def invocationsOfOthers (owner : App) (events : List Event) : List InvocationReport :=
  (invocations events).filter fun report => report.registration.isOther owner

/-- What became of the frames that were handed over or presented from outside. -/
def dispositions (events : List Event) : List Answer :=
  (answersTo none events).filter (·.isDisposition)

end Events

section Edits

open Registry

/-- What a command asks of the registry, if anything. -/
def Command.edit? : Command → Option Edit
  | .insert point registration => some (.insert point registration)
  | .erase point registration => some (.erase point registration)
  | .eraseApp app => some (.eraseApp app)
  | .configure _ => none
  | .shutdown => some .clear

variable {pairs others : Finset (Point × Registration)}

/-- What an edit does to some of the pairs does not hang on the rest of them. -/
theorem Registry.Edit.filter_onPairs_congr {keep : Point × Registration → Prop} [DecidablePred keep]
    (h : pairs.filter keep = others.filter keep) (edit : Edit) :
    (edit.onPairs pairs).filter keep = (edit.onPairs others).filter keep := by
  cases edit with
  | insert point registration => simp only [onPairs, Finset.filter_insert, h]
  | erase point registration => simp only [onPairs, Finset.filter_erase, h]
  | eraseApp app => simp only [onPairs, Finset.filter_comm _ keep, h]
  | clear => rfl

/-- An application's own edits leave the pairs of others as they are. -/
theorem filter_onPairs_of_isMadeFor {owner : App} {command : Command} {edit : Edit}
    (hedit : command.edit? = some edit) (h : (Operation.command command).isMadeFor owner = true) :
    (edit.onPairs pairs).filter (fun pair => pair.2.app ≠ owner) =
      pairs.filter fun pair => pair.2.app ≠ owner := by
  cases command with
  | insert point registration =>
      cases hedit
      have howner : registration.app = owner := eq_of_beq h
      rw [Edit.onPairs, Finset.filter_insert, if_neg (not_not_intro howner)]
  | erase point registration =>
      cases hedit
      have howner : registration.app = owner := eq_of_beq h
      rw [Edit.onPairs, Finset.filter_erase, Finset.erase_eq_of_notMem]
      intro hmem
      exact (Finset.mem_filter.mp hmem).2 howner
  | eraseApp app =>
      cases hedit
      rw [Edit.onPairs, show app = owner from eq_of_beq h, Finset.filter_filter]
      simp only [and_self]
  | configure settings => cases hedit
  | shutdown => cases h

variable {engine : Engine} (h : engine.registry.Grouped)
include h

theorem toFinset_run (command : Command) :
    (engine.run command).engine.registry.toFinset =
      command.edit?.elim engine.registry.toFinset fun edit => edit.onPairs engine.registry.toFinset := by
  cases command with
  | insert point registration => exact h.toFinset_insert point registration
  | erase point registration => exact h.toFinset_erase point registration
  | eraseApp app => exact engine.registry.toFinset_eraseApp app
  | configure settings =>
      simp only [Engine.run, Command.edit?]
      split
      · rfl
      · rw [Engine.registry_configure]
        rfl
  | shutdown => rfl

/-- A command that an application makes for itself leaves the registrations of others as they are. -/
theorem others_run_of_isMadeFor {owner : App} {command : Command}
    (hmade : (Operation.command command).isMadeFor owner = true) :
    (engine.run command).engine.registry.others owner = engine.registry.others owner := by
  rw [Registry.others, toFinset_run h]
  cases hedit : command.edit? with
  | none => rfl
  | some edit => exact filter_onPairs_of_isMadeFor hedit hmade

/-- What a command does to the registrations of others does not hang on those of an application. -/
theorem others_run_congr {other : Engine} (hother : other.registry.Grouped) {owner : App}
    (hothers : engine.registry.others owner = other.registry.others owner) (command : Command) :
    (engine.run command).engine.registry.others owner =
      (other.run command).engine.registry.others owner := by
  rw [Registry.others, Registry.others, toFinset_run h, toFinset_run hother]
  cases command.edit? with
  | none => exact hothers
  | some edit => exact edit.filter_onPairs_congr hothers

end Edits

/-- Tasks that differ in what they are to an application alone. -/
inductive Task.Alike (owner : App) : Task → Task → Prop
  | presenting (packet : Packet) (left : Nat) :
    Task.Alike owner (.presenting packet left) (.presenting packet left)
  | delivering {one other : Delivery} (harrival : one.handle.arrival = other.handle.arrival)
    (hcause : one.cause = other.cause)
    (hwaiting : (one.waiting.filter (·.isOther owner)).Perm
      (other.waiting.filter (·.isOther owner))) :
    Task.Alike owner (.delivering one) (.delivering other)

theorem Task.Alike.settle {owner : App} {tasks works : List Task}
    (h : List.Forall₂ (Task.Alike owner) tasks works) (cause : Cause) :
    List.Forall₂ (Task.Alike owner) (cause.settle tasks) (cause.settle works) := by
  cases cause with
  | presented =>
      cases h with
      | nil => exact .nil
      | cons hfirst hrest =>
          cases hfirst with
          | presenting packet left =>
              exact .cons (.presenting { packet with blocked := true } left) hrest
          | delivering harrival hcause hwaiting =>
              exact .cons (.delivering harrival hcause hwaiting) hrest
  | _ => exact h

/-- Those a message is for, an application's own apart, are registered for others. -/
theorem Registry.Grouped.audience_perm {registry other : Registry} (h : registry.Grouped)
    (hother : other.Grouped) {owner : App} (hothers : registry.others owner = other.others owner)
    (arrival : Arrival) :
    ((registry.audience arrival).filter (·.isOther owner)).Perm
      ((other.audience arrival).filter (·.isOther owner)) := by
  rw [List.perm_ext_iff_of_nodup ((h.nodup_audience arrival).filter _)
    ((hother.nodup_audience arrival).filter _)]
  intro registration
  have hpair : (arrival.point, registration) ∈ registry.others owner ↔
      (arrival.point, registration) ∈ other.others owner := by rw [hothers]
  simp only [Registry.others, Finset.mem_filter, mem_toFinset] at hpair
  simp only [List.mem_filter, h.mem_audience_iff, hother.mem_audience_iff, Registration.isOther,
    bne_iff_ne]
  rw [and_right_comm, hpair, and_right_comm]

namespace Machine

/-- Of what is noted at the end of a dispatch, the answer alone tells what became of a frame. -/
theorem dispositions_closing {machine : Machine} (hrunner : machine.runner? = none)
    (delivery : Delivery) :
    Events.dispositions (machine.closing delivery).reverse =
      delivery.answer?.toList.filter (·.isDisposition) := by
  simp only [closing, hrunner]
  cases delivery.answer? <;> split <;> rfl

/-- Machines that differ in what they are to an application alone. -/
structure Apart (owner : App) (one other : Machine) : Prop where
  inventory : one.inventory = other.inventory
  kept : one.kept = [] ∧ other.kept = []
  tasks : List.Forall₂ (Task.Alike owner) one.tasks other.tasks
  registrations : one.engine.registry.others owner = other.engine.registry.others owner
  grouped : one.engine.registry.Grouped ∧ other.engine.registry.Grouped
  fresh : one.Fresh ∧ other.Fresh
  invocations : (Events.invocationsOfOthers owner one.history.reverse).Perm
    (Events.invocationsOfOthers owner other.history.reverse)
  dispositions : Events.dispositions one.history.reverse = Events.dispositions other.history.reverse

namespace Apart

variable {owner : App} {one other : Machine} (h : one.Apart owner other)
include h

/-- Each machine may note what tells of no invocation, the same of frames. -/
theorem notes (added noted : List Event) (hadded : ∀ event ∈ added, event.number? = none)
    (hnoted : ∀ event ∈ noted, event.number? = none)
    (hsame : Events.dispositions added.reverse = Events.dispositions noted.reverse) :
    { one with history := added ++ one.history }.Apart owner
      { other with history := noted ++ other.history } := by
  obtain ⟨hfreshOne, hinvocationsOne⟩ := @Fresh.extend one
    { one with history := added ++ one.history } added h.fresh.1 rfl hadded (Nat.le_refl _)
  obtain ⟨hfreshOther, hinvocationsOther⟩ := @Fresh.extend other
    { other with history := noted ++ other.history } noted h.fresh.2 rfl hnoted (Nat.le_refl _)
  refine { h with fresh := ⟨hfreshOne, hfreshOther⟩, invocations := ?_, dispositions := ?_ }
  · rw [Events.invocationsOfOthers, Events.invocationsOfOthers, hinvocationsOne, hinvocationsOther]
    exact h.invocations
  · have hold := h.dispositions
    simp only [Events.dispositions] at hold hsame ⊢
    rw [List.reverse_append, List.reverse_append, Events.answersTo_append, Events.answersTo_append,
      List.filter_append, List.filter_append, hold, hsame]

theorem record {event note : Event} (hevent : event.number? = none) (hnote : note.number? = none)
    (hsame : Events.dispositions [event] = Events.dispositions [note]) :
    (one.record event).Apart owner (other.record note) :=
  h.notes [event] [note] (List.forall_mem_singleton.mpr hevent)
    (List.forall_mem_singleton.mpr hnote) hsame

theorem reply (hone : one.runner? = none) (hother : other.runner? = none) {answer told : Answer}
    (hsame : [answer].filter (·.isDisposition) = [told].filter (·.isDisposition)) :
    (one.reply answer).Apart owner (other.reply told) := by
  refine h.record hone hother ?_
  rw [hone, hother]
  exact hsame

/-- The engines may change in anything but what is registered for others. -/
theorem govern {first second : Engine}
    (hregistrations : first.registry.others owner = second.registry.others owner)
    (hgrouped : first.registry.Grouped ∧ second.registry.Grouped) :
    { one with engine := first }.Apart owner { other with engine := second } :=
  { h with registrations := hregistrations, grouped := hgrouped }

theorem count (update change : Stats → Stats) :
    (one.count update).Apart owner (other.count change) :=
  h.govern h.registrations h.grouped

/-- The dispatch of a message is for the same of the others. -/
theorem dispatch (arrival : Arrival) (cause : Cause) :
    (one.dispatch arrival cause).Apart owner (other.dispatch arrival cause) := by
  have hnoted := (h.count Stats.countDispatched Stats.countDispatched).record
    (show (Event.dispatched ⟨one.emissions.length, arrival⟩).number? = none from rfl)
    (show (Event.dispatched ⟨other.emissions.length, arrival⟩).number? = none from rfl) rfl
  have hwaiting := h.grouped.1.audience_perm h.grouped.2 h.registrations arrival
  exact { hnoted with tasks := .cons (.delivering rfl rfl hwaiting) h.tasks }

/-- A frame is a message to both or to neither. -/
theorem takeIn (frame : Bytes) (point : Point) (cause : Cause) :
    (one.takeIn frame point cause).1.Apart owner (other.takeIn frame point cause).1 := by
  simp only [Machine.takeIn]
  cases Arrival.ofFrame? frame point with
  | none => exact (h.count _ _).count _ _
  | some arrival => exact (h.count _ _).dispatch arrival cause

theorem tasks_eq_nil (hone : one.tasks = []) : other.tasks = [] := by
  have htasks := h.tasks
  rwa [hone, List.forall₂_nil_left_iff] at htasks

/-- No handler is running in either. -/
theorem runner?_eq_none : one.runner? = none ∧ other.runner? = none := by
  have hnone : ∀ {tasks works : List Task}, List.Forall₂ (Task.Alike owner) tasks works →
      { one with tasks := tasks }.runner? = none ∧ { other with tasks := works }.runner? = none := by
    intro tasks works halike
    induction halike with
    | nil => exact ⟨rfl, rfl⟩
    | cons hfirst _ ih =>
        cases hfirst with
        | presenting packet left => exact ih
        | delivering harrival hcause hwaiting => exact ih
  exact hnone h.tasks

/-- An operation that is asked for in both runs. -/
theorem operate (operation : Operation) :
    (one.begin operation).Apart owner (other.begin operation) := by
  obtain ⟨hnone, hnothing⟩ := h.runner?_eq_none
  have hbegan : (one.record (.began operation)).Apart owner (other.record (.began operation)) :=
    h.record rfl rfl rfl
  cases operation with
  | command command =>
      have hgoverned := hbegan.govern (others_run_congr h.grouped.1 h.grouped.2 h.registrations command)
        ⟨Engine.grouped_run h.grouped.1 command, Engine.grouped_run h.grouped.2 command⟩
      have hcommanded := hgoverned.record (show (Event.commanded command (one.engine.run command).calls
        (one.engine.run command).answer).number? = none from rfl) (show (Event.commanded command
          (other.engine.run command).calls (other.engine.run command).answer).number? = none from rfl)
        rfl
      exact hcommanded.reply hnone hnothing rfl
  | receive frame point =>
      simp only [Machine.begin, Machine.takeIn]
      cases Arrival.ofFrame? frame point with
      | none => exact ((hbegan.count _ _).count _ _).reply hnone hnothing rfl
      | some arrival => exact (hbegan.count _ _).dispatch arrival .received
  | present packet times =>
      exact { hbegan with tasks := .cons (.presenting packet times) h.tasks }
  | dispatch arrival => exact hbegan.dispatch arrival .dispatched
  | act slot action =>
      obtain ⟨hkept, hforgotten⟩ := hbegan.kept
      simp only [Machine.begin, hkept, hforgotten]
      exact hbegan.reply hnone hnothing rfl
  | replaceInventory inventory =>
      have hreplaced : { one.record (.began (.replaceInventory inventory)) with
          inventory := inventory }.Apart owner { other.record (.began (.replaceInventory inventory)) with
            inventory := inventory } := { hbegan with inventory := rfl }
      exact hreplaced.reply hnone hnothing rfl
  | readSettings => exact hbegan.reply hnone hnothing rfl
  | readRegistrations => exact hbegan.reply hnone hnothing rfl
  | readApp => exact hbegan.reply hnone hnothing rfl
  | idle => exact hbegan.reply hnone hnothing rfl

/-- A packet that is presented in both runs. -/
theorem present (packet : Packet) (left : Nat) :
    (one.present packet left).Apart owner (other.present packet left) := by
  have hnoted : (one.record (.presented packet)).Apart owner (other.record (.presented packet)) :=
    h.record rfl rfl rfl
  have hshown : ((one.record (.presented packet)).push (.presenting packet left)).Apart owner
      ((other.record (.presented packet)).push (.presenting packet left)) :=
    { hnoted with tasks := .cons (.presenting packet left) h.tasks }
  simp only [Machine.present]
  split
  · exact hshown
  · exact hshown.takeIn packet.frame packet.point .presented

theorem withTasks {tasks works : List Task} (htasks : List.Forall₂ (Task.Alike owner) tasks works) :
    (one.withTasks tasks).Apart owner (other.withTasks works) :=
  { h with tasks := htasks }

/-- Two rows of invocations that differ in an application's own handlers. -/
theorem attendedBy (routines : Routines) {handle given : Handle}
    (harrival : handle.arrival = given.arrival) {queue row : List Registration}
    (hqueue : (queue.filter (·.isOther owner)).Perm (row.filter (·.isOther owner))) :
    (one.attendedBy routines handle queue).Apart owner (other.attendedBy routines given row) := by
  obtain ⟨hregistryOne, hinventoryOne, hkeptOne, htasksOne, -⟩ :=
    @attendedBy_frame one routines handle queue
  obtain ⟨hregistryOther, hinventoryOther, hkeptOther, htasksOther, -⟩ :=
    @attendedBy_frame other routines given row
  have hreports : ∀ (machine : Machine) (handle : Handle) (queue : List Registration),
      machine.Fresh → Events.invocationsOfOthers owner
        (machine.attendedBy routines handle queue).history.reverse =
          Events.invocationsOfOthers owner machine.history.reverse ++
            (queue.filter (·.isOther owner)).map (routines.report machine.inventory handle.arrival) := by
    intro machine handle queue hfresh
    rw [Events.invocationsOfOthers, invocations_attendedBy queue hfresh, List.filter_append,
      List.filter_map]
    rfl
  constructor
  case inventory => rw [hinventoryOne, hinventoryOther, h.inventory]
  case kept => exact ⟨hkeptOne.trans h.kept.1, hkeptOther.trans h.kept.2⟩
  case tasks =>
    rw [htasksOne, htasksOther]
    exact h.tasks
  case registrations => rw [hregistryOne, hregistryOther, h.registrations]
  case grouped => exact ⟨hregistryOne ▸ h.grouped.1, hregistryOther ▸ h.grouped.2⟩
  case fresh => exact ⟨h.fresh.1.attendedBy queue, h.fresh.2.attendedBy row⟩
  case invocations =>
    rw [hreports one handle queue h.fresh.1, hreports other given row h.fresh.2, h.inventory, harrival]
    exact h.invocations.append (hqueue.map _)
  case dispositions =>
    have hold := h.dispositions
    simp only [Events.dispositions] at hold ⊢
    rw [answersTo_attendedBy, answersTo_attendedBy, hold]

/-- The end of a dispatch. -/
theorem conclude {delivery dispatched : Delivery} (hcause : delivery.cause = dispatched.cause) :
    (one.conclude delivery).Apart owner (other.conclude dispatched) := by
  obtain ⟨hnone, hnothing⟩ := h.runner?_eq_none
  have hsettled := Task.Alike.settle h.tasks delivery.cause
  have hsame : Events.dispositions (one.closing delivery).reverse =
      Events.dispositions (other.closing dispatched).reverse := by
    rw [dispositions_closing hnone, dispositions_closing hnothing]
    obtain ⟨handle, cause, waiting, invoked⟩ := delivery
    obtain ⟨given, _, others, count⟩ := dispatched
    cases hcause
    cases cause <;> rfl
  rw [conclude_eq, conclude_eq, ← hcause]
  exact { h.notes (one.closing delivery) (other.closing dispatched)
    (fun event hmem => number?_of_mem_closing hnone hmem)
    (fun event hmem => number?_of_mem_closing hnothing hmem) hsame with tasks := hsettled }

variable {routines : Routines} {next after : Machine}

/-- The dispatch of a message that both machines have before them. -/
theorem delivered {delivery dispatched : Delivery} {tasks works : List Task}
    (halike : Task.Alike owner (.delivering delivery) (.delivering dispatched))
    (htasks : List.Forall₂ (Task.Alike owner) tasks works) {queue row : List Registration}
    (hqueue : queue.Perm delivery.waiting) (hrow : row.Perm dispatched.waiting) :
    (one.delivered routines delivery tasks queue).Apart owner
      (other.delivered routines dispatched works row) := by
  cases halike with
  | delivering harrival hcause hwaiting =>
      have hothers := ((hqueue.filter (·.isOther owner)).trans hwaiting).trans
        (hrow.filter (·.isOther owner)).symm
      exact ((h.attendedBy routines harrival hothers).withTasks htasks).conclude hcause

omit h in
/-- A round, once its step has kept the machines apart. -/
theorem round (hstep : (step routines.handlers one).Apart owner (step routines.handlers other))
    (hone : Round routines one next) (hother : Round routines other after) :
    next.Apart owner after := by
  have htasks := hstep.tasks
  cases hone with
  | quiet hquiet =>
      cases hother with
      | quiet => exact hstep
      | delivers dispatched works row hdelivers hrow =>
          rw [hdelivers, List.forall₂_cons_right_iff] at htasks
          obtain ⟨_, tasks, halike, -, heq⟩ := htasks
          cases halike with
          | delivering => exact absurd heq (hquiet _ tasks)
  | delivers delivery tasks queue hdelivers hqueue =>
      rw [hdelivers, List.forall₂_cons_left_iff] at htasks
      obtain ⟨_, works, halike, hrest, heq⟩ := htasks
      cases hother with
      | quiet hquiet =>
          cases halike with
          | delivering => exact absurd heq (hquiet _ works)
      | delivers dispatched rest row hdispatched hrow =>
          rw [hdispatched] at heq
          cases heq
          exact hstep.delivered halike hrest hqueue hrow

/-- While a packet is presented, both machines have the same before them. -/
theorem step_of_awaits {left : Nat} (hawaits : one.Awaits (left + 1)) (handlers : Handlers) :
    (step handlers one).Apart owner (step handlers other) := by
  obtain ⟨packet, hone⟩ := hawaits
  have htasks := h.tasks
  rw [hone, List.forall₂_cons_left_iff] at htasks
  obtain ⟨_, _, halike, hrest, hother⟩ := htasks
  cases List.forall₂_nil_left_iff.mp hrest
  cases halike with
  | presenting =>
      have hbare := h.withTasks .nil
      cases left with
      | zero =>
          rw [step, step, hone, hother]
          exact hbare.reply rfl rfl rfl
      | succ left =>
          rw [step, step, hone, hother]
          exact hbare.present packet left

theorem rounds {left : Nat} (hawaits : one.Awaits left) (hone : Rounds routines left one next)
    (hother : Rounds routines left other after) : next.Apart owner after := by
  refine Rounds.together routines ?_ h hawaits hone hother
  intro one other next after left h hawaits hone hother
  exact round (h.step_of_awaits hawaits routines.handlers) hone hother

section Operations

variable {operation : Operation} {agenda rest : List Operation} (hone : one.tasks = [])
  (hagenda : one.agenda = operation :: agenda)
include hone hagenda

/-- An operation that both runs perform. -/
theorem shared_operation (hrest : other.agenda = operation :: rest)
    (hnext : Rounds routines (operation.rounds + 1) one next)
    (hafter : Rounds routines (operation.rounds + 1) other after) : next.Apart owner after := by
  obtain ⟨middle, hmiddle, hnext⟩ := hnext
  obtain ⟨between, hbetween, hafter⟩ := hafter
  have hother := h.tasks_eq_nil hone
  have hready : { one with agenda := agenda }.Apart owner { other with agenda := rest } := { h with }
  have hstep : (step routines.handlers one).Apart owner (step routines.handlers other) := by
    rw [step_of_operation routines.handlers hone hagenda,
      step_of_operation routines.handlers hother hrest]
    exact hready.operate operation
  have hunderway := (underway_step_of_operation routines.handlers hone hagenda).1
  exact (round hstep hmiddle hbetween).rounds (hmiddle.awaits routines hunderway).1 hnext hafter

/-- An operation that an application makes for itself is not seen by the others. -/
theorem own_operation (hmade : operation.isMadeFor owner = true)
    (hnext : Rounds routines (operation.rounds + 1) one next) : next.Apart owner other := by
  cases operation with
  | command command =>
      obtain ⟨middle, hmiddle, rfl⟩ := hnext
      have hnone := h.runner?_eq_none.1
      have hnoted := h.notes
        [.answered one.runner? (.command (one.engine.run command).answer),
          .commanded command (one.engine.run command).calls (one.engine.run command).answer,
          .began (.command command)]
        [] (by simp [Event.number?, hnone]) (fun _ hmem => absurd hmem List.not_mem_nil)
        (by rw [hnone]; rfl)
      have hothers := (others_run_of_isMadeFor h.grouped.1 hmade).trans h.registrations
      have hgoverned := hnoted.govern hothers ⟨Engine.grouped_run h.grouped.1 command, h.grouped.2⟩
      have hbegun : ({ one with agenda := agenda }.begin (.command command)).Apart owner other :=
        { hgoverned with }
      cases hmiddle with
      | quiet hquiet =>
          rw [step_of_operation routines.handlers hone hagenda]
          exact hbegun
      | delivers delivery tasks queue hdelivers hqueue =>
          rw [step_of_operation routines.handlers hone hagenda] at hdelivers
          have hnothing := hone.symm.trans hdelivers
          cases hnothing
  | _ => cases hmade

end Operations

end Apart

/-- Both runs come to the end of each operation that is left, and are apart there. -/
theorem exists_apart (order arrangement : Order) (routines : Routines) {owner : App}
    {one other : Machine} (h : one.Apart owner other) (htasks : one.tasks = [])
    {before after : List Operation} (hone : one.agenda = before ++ after)
    (hother : other.agenda = (before ++ after).filter (!·.isMadeFor owner)) :
    ∃ m n, (runIn order routines.handlers m one).Apart owner
        (runIn arrangement routines.handlers n other) ∧
      ((runIn order routines.handlers m one).tasks = [] ∧
        (runIn order routines.handlers m one).agenda = after) ∧
      (runIn arrangement routines.handlers n other).agenda =
        after.filter (!·.isMadeFor owner) := by
  induction before generalizing one other with
  | nil => exact ⟨0, 0, h, ⟨htasks, hone⟩, hother⟩
  | cons operation before ih =>
      obtain ⟨m, next, hrounds, rfl, hnext, hrest⟩ := exists_runIn_operation order routines htasks hone
      cases hmade : operation.isMadeFor owner with
      | true =>
          -- One run goes on by an operation that the other does not have.
          rw [List.cons_append, List.filter_cons_of_neg (by simp [hmade])] at hother
          obtain ⟨k, n, hapart, hdone, hleft⟩ :=
            ih (h.own_operation htasks hone hmade hrounds) hnext hrest hother
          refine ⟨m + k, n, ?_⟩
          rw [runIn_add]
          exact ⟨hapart, hdone, hleft⟩
      | false =>
          rw [List.cons_append, List.filter_cons_of_pos (by simp [hmade])] at hother
          obtain ⟨n, following, hsame, rfl, hfollowing, hremaining⟩ :=
            exists_runIn_operation arrangement routines (h.tasks_eq_nil htasks) hother
          obtain ⟨k, l, hapart, hdone, hleft⟩ :=
            ih (h.shared_operation htasks hone hother hrounds hsame) hnext hrest hremaining
          refine ⟨m + k, n + l, ?_⟩
          rw [runIn_add, runIn_add]
          exact ⟨hapart, hdone, hleft⟩

/-- Applications are isolated from each other. Leave out of a run whose handlers act and come to an end
every operation by which an application governs its registrations, and go through those who wait for a
message in any order. Both runs come to the end of each operation that is left; there the same handlers
of others were invoked with the same messages and sent the same frames, each in its order, the same
became of the frames that were handed over, and the same is registered for others. -/
theorem applications_isolated (routines : Routines) (order arrangement : Order) (app : App)
    (settings : Settings) (inventory : Inventory) (owner : App) (before after : List Operation) :
    let start := Machine.start app settings inventory
    ∃ m n,
      let whole := runIn order routines.handlers m (start (before ++ after))
      let rest := runIn arrangement routines.handlers n
        (start ((before ++ after).filter (!·.isMadeFor owner)))
      (whole.tasks = [] ∧ whole.agenda = after) ∧
        (rest.tasks = [] ∧ rest.agenda = after.filter (!·.isMadeFor owner)) ∧
        (Events.invocationsOfOthers owner whole.history.reverse).Perm
          (Events.invocationsOfOthers owner rest.history.reverse) ∧
        Events.dispositions whole.history.reverse = Events.dispositions rest.history.reverse ∧
        whole.engine.registry.others owner = rest.engine.registry.others owner := by
  intro start
  have hfresh : ∀ agenda, (start agenda).Fresh := fun _ _ hmem => absurd hmem List.not_mem_nil
  have hapart : (start (before ++ after)).Apart owner
      (start ((before ++ after).filter (!·.isMadeFor owner))) :=
    ⟨rfl, ⟨rfl, rfl⟩, .nil, rfl, ⟨Registry.grouped_empty, Registry.grouped_empty⟩,
      ⟨hfresh _, hfresh _⟩, List.Perm.refl _, rfl⟩
  obtain ⟨m, n, h, hdone, hleft⟩ := @exists_apart order arrangement routines owner _ _ hapart rfl
    before after rfl rfl
  exact ⟨m, n, hdone, ⟨h.tasks_eq_nil hdone.1, hleft⟩, h.invocations, h.dispositions, h.registrations⟩

end Machine

end Neighbours
