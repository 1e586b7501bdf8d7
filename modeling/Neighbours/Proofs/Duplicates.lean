import Neighbours.Proofs.Confinement
import Neighbours.Proofs.Consistency
import Neighbours.Proofs.Flooding
import Neighbours.Proofs.Past

/-! The warning of duplicates. How many actions on a message have sent something is counted in a place that
all who hold the handle of the message share, while other messages are dispatched and the settings change.
At the end of a dispatch the count is that of the actions taken with its handle so far, and the settings in
force at that moment decide whether it is told. -/

namespace Neighbours

/-- The events that only the end of a dispatch adds to the history. -/
def Event.closes : Event → Bool
  | .concluded _ _ | .logged (.duplicates _ _) => true
  | _ => false

namespace Machine

/-- How many of the actions taken with a handle have sent something. -/
def effective (machine : Machine) (handle : Handle) : Nat :=
  machine.deeds.countP fun deed => decide (deed.handle = handle) && !deed.sent.isEmpty

/-- How many of the actions taken on the message of a number have sent something. -/
def weight (machine : Machine) (message : Nat) : Nat :=
  machine.deeds.countP fun deed => decide (deed.handle.message = message) && !deed.sent.isEmpty

def closings (machine : Machine) : List Event :=
  machine.history.filter Event.closes

/-- What becomes of the counts: an action may add to that of its message, and a dispatch that begins has
one of its own. -/
def Counts (machine : Machine) (acting? : Option (Handle × Action)) (after : Machine) : Prop :=
  match acting? with
  | some (handle, action) => after.emissions = (machine.act handle action).emissions
  | none => after.emissions = machine.emissions ∨ after.emissions = machine.emissions ++ [0]

/-- A step that ends no dispatch. -/
structure Continues (machine : Machine) (acting? : Option (Handle × Action)) (after : Machine) :
    Prop where
  counts : machine.Counts acting? after
  closings : after.closings = machine.closings

/-- It does not matter what else there is to do. -/
theorem Continues.of_work {machine after : Machine} {acting? : Option (Handle × Action)}
    {tasks : List Task} {agenda : List Operation}
    (h : { machine with tasks := tasks, agenda := agenda }.Continues acting? after) :
    machine.Continues acting? after := by
  obtain ⟨hcounts, hclosings⟩ := h
  cases acting? with
  | none => exact ⟨hcounts, hclosings⟩
  | some taken => exact ⟨hcounts, hclosings⟩

section Blocks

variable (machine : Machine)

theorem continues_takeIn (frame : Bytes) (point : Point) (cause : Cause) :
    machine.Continues none (machine.takeIn frame point cause).1 := by
  unfold takeIn
  cases Arrival.ofFrame? frame point with
  | none => exact ⟨Or.inl rfl, rfl⟩
  | some arrival => exact ⟨Or.inr rfl, rfl⟩

theorem continues_begin (operation : Operation) :
    machine.Continues (operation.acting? machine.kept) (machine.begin operation) := by
  cases operation with
  | receive frame point =>
      obtain ⟨hcounts, hclosings⟩ :=
        (machine.record (.began (.receive frame point))).continues_takeIn frame point .received
      simp only [begin]
      split
      · next heq =>
          rw [heq] at hcounts hclosings
          exact ⟨hcounts, hclosings⟩
      · next heq =>
          rw [heq] at hcounts hclosings
          exact ⟨hcounts, hclosings⟩
  | dispatch arrival => exact ⟨Or.inr rfl, rfl⟩
  | act slot action =>
      have hkept : (machine.record (.began (.act slot action))).kept = machine.kept := rfl
      simp only [begin, Operation.acting?, hkept]
      cases machine.kept.lookup slot with
      | none => exact ⟨Or.inl rfl, rfl⟩
      | some handle => exact ⟨rfl, rfl⟩
  | _ => exact ⟨Or.inl rfl, rfl⟩

theorem continues_present (packet : Packet) (left : Nat) :
    machine.Continues none (machine.present packet left) := by
  simp only [present]
  split
  · exact ⟨Or.inl rfl, rfl⟩
  · obtain ⟨hcounts, hclosings⟩ := ((machine.record (.presented packet)).push
      (.presenting packet left)).continues_takeIn packet.frame packet.point .presented
    exact ⟨hcounts, hclosings⟩

theorem continues_finish (invocation : Invocation) :
    machine.Continues none (machine.finish invocation) := by
  simp only [finish]
  cases invocation.script.ending <;> exact ⟨Or.inl rfl, rfl⟩

theorem continues_perform (handle : Handle) (step : Step) :
    machine.Continues (step.acting? machine.kept handle) (machine.perform handle step) := by
  cases step with
  | act action => exact ⟨rfl, rfl⟩
  | keep slot => exact ⟨Or.inl rfl, rfl⟩
  | perform operation => exact machine.continues_begin operation

/-- A step ends the innermost dispatch if nobody waits for it any longer, and otherwise it ends none. -/
theorem step_concludes_or_continues (handlers : Handlers) :
    (∃ delivery tasks, machine.tasks = .delivering delivery :: tasks ∧ delivery.waiting = [] ∧
        step handlers machine = (machine.withTasks tasks).conclude delivery) ∨
      machine.Continues machine.acting? (step handlers machine) := by
  unfold step
  split
  · next htasks =>
      refine Or.inr ?_
      split
      · next hagenda =>
          simp only [acting?, htasks, hagenda]
          exact ⟨Or.inl rfl, rfl⟩
      · next operation agenda hagenda =>
          have hacting : machine.acting? = operation.acting? machine.kept := by
            simp only [acting?, htasks, hagenda]
            rfl
          rw [hacting]
          exact (continues_begin { machine with agenda := agenda } operation).of_work
  · next packet tasks htasks =>
      simp only [acting?, htasks]
      exact Or.inr ⟨Or.inl rfl, rfl⟩
  · next packet left tasks htasks =>
      simp only [acting?, htasks]
      exact Or.inr (continues_present { machine with tasks := tasks } packet left).of_work
  · next delivery tasks htasks =>
      split
      · next hwaiting => exact Or.inl ⟨delivery, tasks, htasks, hwaiting, rfl⟩
      · simp only [acting?, htasks]
        exact Or.inr ⟨Or.inl rfl, rfl⟩
  · next invocation tasks htasks =>
      refine Or.inr ?_
      split
      · next hsteps =>
          simp only [acting?, htasks, hsteps]
          exact (continues_finish { machine with tasks := tasks } invocation).of_work
      · next first steps hsteps =>
          simp only [acting?, htasks, hsteps]
          have hacting : (first :: steps).head?.bind (Step.acting? machine.kept invocation.handle) =
              first.acting? machine.kept invocation.handle := rfl
          rw [hacting]
          let rest := { invocation with script := { invocation.script with steps := steps } }
          exact (continues_perform { machine with tasks := .running rest :: tasks } invocation.handle
            first).of_work

/-- Between dispatches that begin, only the actions taken change the counts. -/
theorem counts_step (handlers : Handlers) :
    machine.Counts machine.acting? (step handlers machine) := by
  rcases machine.step_concludes_or_continues handlers with
    ⟨delivery, tasks, htasks, -, hstep⟩ | hcontinues
  · have hacting : machine.acting? = none := by
      simp only [acting?, htasks]
    rw [hacting, hstep, conclude_eq]
    exact Or.inl rfl
  · exact hcontinues.counts

/-- A message without a count has sent nothing. -/
theorem getD_append_zero (counts : List Nat) (message : Nat) :
    (counts ++ [0]).getD message 0 = counts.getD message 0 := by
  rw [List.getD_eq_getElem?_getD, List.getD_eq_getElem?_getD]
  rcases Nat.lt_or_ge message counts.length with hlt | hge
  · rw [List.getElem?_append_left hlt]
  · rw [List.getElem?_append_right hge, List.getElem?_eq_none hge]
    cases message - counts.length <;> rfl

/-- An action adds to the count of its message if it sends something. -/
theorem getD_emissions_act {handle : Handle} (hmessage : handle.message < machine.emissions.length)
    (action : Action) (message : Nat) :
    (machine.act handle action).emissions.getD message 0 =
      [machine.deed handle action].countP (fun deed =>
        decide (deed.handle.message = message) && !deed.sent.isEmpty) +
          machine.emissions.getD message 0 := by
  have hemissions : (machine.act handle action).emissions =
      if (machine.deed handle action).sent.isEmpty then machine.emissions
      else machine.emissions.modify handle.message (· + 1) := rfl
  have hhandle : (machine.deed handle action).handle = handle := rfl
  rw [hemissions, List.countP_singleton, hhandle]
  cases (machine.deed handle action).sent.isEmpty with
  | true => simp
  | false =>
      simp only [Bool.false_eq_true, if_false, List.getD_eq_getElem?_getD, List.getElem?_modify]
      by_cases hsame : handle.message = message
      · subst hsame
        simp [hmessage, Nat.add_comm]
      · simp [hsame]

end Blocks

/-- The count kept for a message tells how many of the actions taken on it have sent something, and the
handle of each has been given out. -/
structure Weighed (machine : Machine) : Prop where
  dispatched : ∀ deed ∈ machine.deeds, .dispatched deed.handle ∈ machine.history
  count : ∀ message, machine.emissions.getD message 0 = machine.weight message

theorem Weighed.step {machine : Machine} (h : machine.Weighed) (handlers : Handlers)
    (hacting : ∀ handle action, machine.acting? = some (handle, action) →
      handle.message < machine.emissions.length ∧ .dispatched handle ∈ machine.history) :
    (step handlers machine).Weighed := by
  have hcounts := machine.counts_step handlers
  have hdeeds := machine.deeds_step handlers
  have hhistory := machine.history_step handlers
  generalize Machine.step handlers machine = after at hcounts hdeeds hhistory ⊢
  have hkept : ∀ handle, .dispatched handle ∈ machine.history → .dispatched handle ∈ after.history := by
    intro handle hmem
    rw [hhistory]
    exact List.mem_append_right _ hmem
  cases hnext : machine.acting? with
  | none =>
      rw [hnext] at hcounts hdeeds
      have hdeeds : after.deeds = machine.deeds := hdeeds
      constructor
      case dispatched =>
        rw [hdeeds]
        exact fun deed hdeed => hkept _ (h.dispatched deed hdeed)
      case count =>
        intro message
        have hsame : after.emissions.getD message 0 = machine.emissions.getD message 0 := by
          rcases hcounts with heq | heq
          · rw [heq]
          · rw [heq, getD_append_zero]
        rw [hsame, h.count, weight, weight, hdeeds]
  | some taken =>
      obtain ⟨handle, action⟩ := taken
      rw [hnext] at hcounts hdeeds
      have hdeeds : after.deeds = [machine.deed handle action] ++ machine.deeds := hdeeds
      obtain ⟨hmessage, hdispatched⟩ := hacting handle action hnext
      constructor
      case dispatched =>
        rw [hdeeds]
        intro deed hdeed
        rcases List.mem_cons.mp hdeed with rfl | hdeed
        · exact hkept handle hdispatched
        · exact hkept _ (h.dispatched deed hdeed)
      case count =>
        intro message
        have hcounts : after.emissions = (machine.act handle action).emissions := hcounts
        rw [hcounts, machine.getD_emissions_act hmessage, h.count, weight, weight, hdeeds,
          List.countP_append]

/-- A message has one handle only, so its count is that of the actions taken with the handle. -/
theorem Weighed.getD_emissions {machine : Machine} (h : machine.Weighed)
    (htraced : machine.outline.Traced) {handle : Handle}
    (hdispatched : .dispatched handle ∈ machine.outline.marks) :
    machine.emissions.getD handle.message 0 = machine.effective handle := by
  rw [h.count, weight, effective]
  apply List.countP_congr
  intro deed hdeed
  have hother : .dispatched deed.handle ∈ machine.outline.marks :=
    List.mem_filter.mpr ⟨h.dispatched deed hdeed, rfl⟩
  have hsame := htraced.unique handle deed.handle hdispatched hother
  simp only [Bool.and_eq_true, decide_eq_true_eq]
  exact and_congr_left' ⟨hsame, congrArg Handle.message⟩

variable (order : Order) (handlers : Handlers) (app : App) (settings : Settings)
  (inventory : Inventory) (agenda : List Operation)

theorem weighed_runIn (n : Nat) :
    (runIn order handlers n (start app settings inventory agenda)).Weighed := by
  induction n with
  | zero =>
      constructor
      · intro deed hdeed
        exact absurd hdeed List.not_mem_nil
      · intro message
        rfl
  | succ n ih =>
      rw [runIn_succ]
      have hnumbered := numbered_start app settings inventory agenda
      have htraced :=
        traced_runIn order handlers n hnumbered (traced_start app settings inventory agenda)
      obtain ⟨hdispatched, hcount⟩ := ih.step handlers fun handle action hacting => by
        obtain ⟨number, registration, hinvoked⟩ := exists_invoked_of_acting htraced hacting
        exact ⟨message_lt_of_acting hacting,
          mem_history_of_mem_marks (htraced.invoked _ _ _ hinvoked)⟩
      exact ⟨hdispatched, hcount⟩

/-- What tells of the end of a dispatch in the events that this adds. -/
theorem filter_closes_closing (machine : Machine) (delivery : Delivery) :
    (machine.closing delivery).filter Event.closes =
      .concluded delivery.handle delivery.invoked ::
        if machine.engine.warnsDuplicates &&
            decide (1 < machine.emissions.getD delivery.handle.message 0) then
          [.logged (.duplicates delivery.handle.arrival
            (machine.emissions.getD delivery.handle.message 0))]
        else [] := by
  have hanswer : ((delivery.answer?.map (Event.answered machine.runner?)).toList).filter
      Event.closes = [] := by
    cases delivery.answer? <;> rfl
  rw [closing, List.filter_append, hanswer, List.nil_append, List.filter_cons_of_pos rfl]
  split <;> rfl

theorem concluded_mem_closing_iff {machine : Machine} {delivery : Delivery} {handle : Handle}
    {invoked : Nat} :
    .concluded handle invoked ∈ machine.closing delivery ↔
      handle = delivery.handle ∧ invoked = delivery.invoked := by
  have hmem : .concluded handle invoked ∈ machine.closing delivery ↔
      .concluded handle invoked ∈ (machine.closing delivery).filter Event.closes :=
    ⟨fun h => List.mem_filter.mpr ⟨h, rfl⟩, fun h => (List.mem_filter.mp h).1⟩
  rw [hmem, filter_closes_closing, List.mem_cons, Event.concluded.injEq]
  refine or_iff_left fun hwarning => ?_
  split at hwarning
  · cases List.mem_singleton.mp hwarning
  · exact absurd hwarning List.not_mem_nil

/-- What a step adds that ends no dispatch tells of no such end. -/
theorem Continues.not_closes {machine : Machine} {handlers : Handlers}
    {acting? : Option (Handle × Action)} (h : machine.Continues acting? (step handlers machine)) :
    ∀ event ∈ (step handlers machine.unrecorded).history, ¬event.closes := by
  have hclosings : (step handlers machine).history.filter Event.closes =
      machine.history.filter Event.closes := h.closings
  rw [machine.history_step handlers, List.filter_append] at hclosings
  exact List.filter_eq_nil_iff.mp (List.append_left_eq_self.mp hclosings)

/-- The number of a message tells which handle is meant. -/
theorem dispatched_iff_eq {machine : Machine} (htraced : machine.outline.Traced) {handle : Handle}
    (hdispatched : .dispatched handle ∈ machine.outline.marks) (other : Handle) :
    .dispatched other ∈ machine.history ∧ other.message = handle.message ↔ other = handle := by
  constructor
  · rintro ⟨hother, hmessage⟩
    exact htraced.unique handle other hdispatched (List.mem_filter.mpr ⟨hother, rfl⟩) hmessage
  · rintro rfl
    exact ⟨mem_history_of_mem_marks hdispatched, rfl⟩

/-- What is under way has not ended before. -/
theorem message_ne_of_concluded {machine : Machine} (hnumbered : machine.outline.Numbered)
    {delivery : Delivery} (hopen : .delivery delivery ∈ machine.outline.levels) {other : Handle}
    {seen : Nat} (hother : .concluded other seen ∈ machine.history) :
    other.message ≠ delivery.handle.message := by
  intro hmessage
  have hover := (hnumbered.concluded_lt other seen (List.mem_filter.mpr ⟨hother, rfl⟩)).2
  exact hover (hmessage ▸ mem_messagesOf hopen)

/-- The frames that an action has sent are those it may send that the guard has let pass. -/
theorem mem_sent_iff_of_mem_deeds {n : Nat} {deed : Deed}
    (h : deed ∈ (runIn order handlers n (start app settings inventory agenda)).deeds)
    (emission : Emission) :
    emission ∈ deed.sent ↔ deed.inventory.isEdge emission.point ∧
      deed.action.Sends deed.inventory.edges deed.handle.arrival emission := by
  obtain ⟨m, -, handle, action, -, rfl⟩ := exists_acting_of_mem_deeds order handlers rfl h
  exact Action.mem_sent_perform_iff

/-- A step that ends a dispatch has warned of duplicates exactly if the settings in force ask for it and
more than one of the actions taken so far with the handle of the dispatch, by whomever, has sent something;
it then tells how many these were. The number of its message belongs to this dispatch alone, and it has not
ended before. No other step warns of duplicates. What an action sends are those of the frames it may send
that the guard lets pass, so an action that drops the message or is held back does not count, and one
that sends several frames counts once. -/
theorem duplicates_warned (n : Nat) :
    let machine := runIn order handlers n (start app settings inventory agenda)
    let next := stepIn order handlers machine
    ∃ added, next.history = added ++ machine.history ∧
      (∀ handle invoked, .concluded handle invoked ∈ added →
        let count := machine.effective handle
        added.filter Event.closes = .concluded handle invoked ::
            (if machine.engine.settings.warnDuplicates ∧ 1 < count then
              [.logged (.duplicates handle.arrival count)]
            else []) ∧
          (∀ other, .dispatched other ∈ machine.history ∧ other.message = handle.message ↔
            other = handle) ∧
          ∀ other seen, .concluded other seen ∈ machine.history → other.message ≠ handle.message) ∧
      ((∀ handle invoked, .concluded handle invoked ∉ added) →
        ∀ arrival count, .logged (.duplicates arrival count) ∉ added) ∧
      ∀ deed ∈ machine.deeds, ∀ emission, emission ∈ deed.sent ↔
        deed.inventory.isEdge emission.point ∧
          deed.action.Sends deed.inventory.edges deed.handle.arrival emission := by
  intro machine next
  have hweighed : machine.Weighed := weighed_runIn order handlers app settings inventory agenda n
  have hnumbered : machine.outline.Numbered :=
    numbered_runIn order handlers n (numbered_start app settings inventory agenda)
  have htraced : machine.outline.Traced := traced_runIn order handlers n
    (numbered_start app settings inventory agenda) (traced_start app settings inventory agenda)
  have hconsistent : machine.engine.Consistent :=
    consistent_runIn order handlers app settings inventory agenda n
  have hsent := fun deed (hdeed : deed ∈ machine.deeds) =>
    mem_sent_iff_of_mem_deeds order handlers app settings inventory agenda hdeed
  rcases machine.step_concludes_or_continues handlers with
    ⟨delivery, tasks, htasks, -, hstep⟩ | hcontinues
  · -- The dispatch that ends has been under way, so its number is its own.
    have hlevels := levels_outline htasks
    have hopen : .delivery delivery ∈ machine.outline.levels := hlevels ▸ List.mem_cons_self
    have hdispatched := htraced.delivery delivery hopen
    refine ⟨(machine.withTasks tasks).closing delivery, ?_, ?_, ?_, hsent⟩
    · show (step handlers machine).history = _
      rw [hstep, conclude_eq]
      rfl
    · intro handle invoked hconcluded count
      obtain ⟨rfl, rfl⟩ := concluded_mem_closing_iff.mp hconcluded
      have hwarns : (machine.withTasks tasks).engine.warnsDuplicates =
          machine.engine.settings.warnDuplicates := hconsistent.warnsDuplicates
      have hcount : (machine.withTasks tasks).emissions.getD delivery.handle.message 0 = count :=
        hweighed.getD_emissions htraced hdispatched
      refine ⟨?_, dispatched_iff_eq htraced hdispatched,
        fun other seen => message_ne_of_concluded hnumbered hopen⟩
      rw [filter_closes_closing, hwarns, hcount]
      simp only [Bool.and_eq_true, decide_eq_true_eq]
    · intro hnone
      exact absurd (concluded_mem_closing_iff.mpr ⟨rfl, rfl⟩) (hnone _ _)
  · have hopen := hcontinues.not_closes
    refine ⟨(step handlers machine.unrecorded).history, machine.history_step handlers, ?_, ?_, hsent⟩
    · intro handle invoked hconcluded
      exact absurd rfl (hopen _ hconcluded)
    · intro _ arrival count hwarning
      exact absurd rfl (hopen _ hwarning)

end Machine

namespace TwoAnswers

open Sample

def closing : Machine :=
  (scenario true).run .asRegistered app inventory 11

/-- Both handlers have the settings changed before the dispatch ends. -/
theorem warned_twoAnswers :
    closing.engine.settings = ⟨true, 7, true⟩ ∧ closing.effective ⟨0, arrival⟩ = 2 ∧
      ∃ added, (run true).history = added ++ closing.history ∧
        added.filter Event.closes = [.concluded ⟨0, arrival⟩ 2, .logged (.duplicates arrival 2)] := by
  obtain ⟨added, hhistory, hends, -, -⟩ := Machine.duplicates_warned .asRegistered
    (scenario true).handlers app (scenario true).settings inventory (scenario true).agenda 11
  have hadded : added = [.answered none (.dispatched 2), .concluded ⟨0, arrival⟩ 2,
      .logged (.duplicates arrival 2)] := List.append_cancel_right (hhistory.symm.trans rfl)
  have hconcluded : .concluded ⟨0, arrival⟩ 2 ∈ added := by
    rw [hadded]
    exact List.mem_cons_of_mem _ List.mem_cons_self
  exact ⟨rfl, rfl, added, hhistory, (hends _ _ hconcluded).1⟩

end TwoAnswers

end Neighbours
