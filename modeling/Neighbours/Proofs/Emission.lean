import Neighbours.Proofs.Delivery
import Neighbours.Proofs.Tracing
import Neighbours.Report

/-! Where frames go. A frame leaves only by an action, out of an attachment point that is recognised as
facing hosts at that moment, and it is made from the message that the handle of the action was given out
for. It does not matter which message is being dispatched meanwhile, whether the handler that kept the
handle is still registered, or whether the engine has been shut down. -/

namespace Neighbours

/-- What an action on a message may send, and out of which attachment points. -/
inductive Action.Sends (edges : List Point) (arrival : Arrival) : Action → Emission → Prop
  | answer (mac : Mac) : Sends edges arrival (.answer mac) ⟨arrival.point, arrival.answer mac⟩
  | forward (point : Point) : Sends edges arrival (.forward point) ⟨point, arrival.frame⟩
  | forwardTo (interface : Interface) : Sends edges arrival (.forwardTo interface)
      ⟨interface.point, Frame.retag arrival.frame interface.vlan⟩
  | flood (point : Point) (hedge : point ∈ edges) (hother : point ≠ arrival.point) :
      Sends edges arrival .flood ⟨point, arrival.frame⟩

namespace Action

variable {arrival : Arrival} {action : Action} {emission : Emission}

theorem mem_attempts_iff {edges : List Point} :
    emission ∈ action.attempts edges arrival ↔ action.Sends edges arrival emission := by
  constructor
  · intro h
    cases action with
    | answer mac =>
        rw [List.mem_singleton.mp h]
        exact .answer mac
    | forward point =>
        rw [List.mem_singleton.mp h]
        exact .forward point
    | forwardTo interface =>
        rw [List.mem_singleton.mp h]
        exact .forwardTo interface
    | flood =>
        obtain ⟨point, hpoint, rfl⟩ := List.mem_map.mp h
        obtain ⟨hedge, hother⟩ := List.mem_filter.mp hpoint
        exact .flood point hedge (of_decide_eq_true hother)
    | drop => exact absurd h List.not_mem_nil
  · intro h
    cases h with
    | answer mac => exact List.mem_singleton_self _
    | forward point => exact List.mem_singleton_self _
    | forwardTo interface => exact List.mem_singleton_self _
    | flood point hedge hother =>
        exact List.mem_map.mpr ⟨point, List.mem_filter.mpr ⟨hedge, decide_eq_true hother⟩, rfl⟩

/-- An action sends what it may, as far as the guard lets it pass. -/
theorem mem_sent_perform_iff {inventory : Inventory} {stats : Stats} :
    emission ∈ (action.perform inventory arrival stats).sent ↔
      inventory.isEdge emission.point ∧ action.Sends inventory.edges arrival emission := by
  rw [perform, Transmission.sent_foldl_attempt, List.nil_append, List.mem_filter, mem_attempts_iff,
    and_comm]

end Action

/-- An action that was taken: on whose behalf, with which handle, and the frames it sent. -/
structure Deed where
  runner : Option Nat
  handle : Handle
  action : Action
  inventory : Inventory
  sent : List Emission

def Event.deed? : Event → Option Deed
  | .acted runner handle action inventory sent => some ⟨runner, handle, action, inventory, sent⟩
  | _ => none

/-- All frames that the reports on a run show were sent by an action. -/
theorem Events.mem_sentBy_iff {runner : Option Nat} {events : List Event} {emission : Emission} :
    emission ∈ sentBy runner events ↔
      ∃ deed ∈ events.filterMap Event.deed?, deed.runner = runner ∧ emission ∈ deed.sent := by
  constructor
  · intro h
    obtain ⟨event, hevent, hsent⟩ := List.mem_flatMap.mp h
    cases event with
    | acted found handle action inventory sent =>
        by_cases hrunner : found = runner
        · have hmem : emission ∈ if found = runner then sent else [] := hsent
          rw [if_pos hrunner] at hmem
          exact ⟨_, List.mem_filterMap.mpr ⟨_, hevent, rfl⟩, hrunner, hmem⟩
        · have hmem : emission ∈ if found = runner then sent else [] := hsent
          rw [if_neg hrunner] at hmem
          exact absurd hmem List.not_mem_nil
    | _ => exact absurd hsent List.not_mem_nil
  · rintro ⟨deed, hdeed, hrunner, hsent⟩
    obtain ⟨event, hevent, hseen⟩ := List.mem_filterMap.mp hdeed
    cases event with
    | acted found handle action inventory sent =>
        cases hseen
        refine List.mem_flatMap.mpr ⟨_, hevent, ?_⟩
        show emission ∈ if found = runner then sent else []
        rw [if_pos hrunner]
        exact hsent
    | _ => cases hseen

/-- The action that an operation takes, if it takes one, with the handle kept for it. -/
def Operation.acting? (kept : List (String × Handle)) : Operation → Option (Handle × Action)
  | .act slot action => (kept.lookup slot).map (·, action)
  | _ => none

/-- The action that a step of a handler takes: a handler may use the handle it was given, and, like
anyone, one that has been kept. -/
def Step.acting? (kept : List (String × Handle)) (given : Handle) : Step → Option (Handle × Action)
  | .act action => some (given, action)
  | .keep _ => none
  | .perform operation => operation.acting? kept

namespace Machine

/-- The actions taken so far, the latest first. -/
def deeds (machine : Machine) : List Deed :=
  machine.history.filterMap Event.deed?

/-- The action that the next step takes, if it takes one, and the handle that it uses. -/
def acting? (machine : Machine) : Option (Handle × Action) :=
  match machine.tasks with
  | [] => machine.agenda.head?.bind (·.acting? machine.kept)
  | .running invocation :: _ =>
    invocation.script.steps.head?.bind (·.acting? machine.kept invocation.handle)
  | _ => none

/-- What the machine does when it takes an action. -/
def deed (machine : Machine) (handle : Handle) (action : Action) : Deed :=
  ⟨machine.runner?, handle, action, machine.inventory,
    (action.perform machine.inventory handle.arrival machine.engine.stats).sent⟩

section Blocks

variable (machine : Machine)

theorem deeds_record {event : Event} (h : event.deed? = none) :
    (machine.record event).deeds = machine.deeds :=
  List.filterMap_cons_none h

theorem deeds_reply (answer : Answer) : (machine.reply answer).deeds = machine.deeds :=
  machine.deeds_record rfl

theorem deeds_takeIn (frame : Bytes) (point : Point) (cause : Cause) :
    (machine.takeIn frame point cause).1.deeds = machine.deeds := by
  unfold takeIn
  cases Arrival.ofFrame? frame point <;> rfl

theorem deeds_present (packet : Packet) (left : Nat) :
    (machine.present packet left).deeds = machine.deeds := by
  simp only [present]
  split
  · rfl
  · exact deeds_takeIn _ _ _ _

theorem deeds_conclude (delivery : Delivery) :
    (machine.conclude delivery).deeds = machine.deeds := by
  have hlogged : (if machine.engine.warnsDuplicates &&
          decide (1 < machine.emissions.getD delivery.handle.message 0) then
        machine.log (.duplicates delivery.handle.arrival
          (machine.emissions.getD delivery.handle.message 0))
      else machine).deeds = machine.deeds := by
    split <;> rfl
  rw [← hlogged]
  simp only [conclude]
  cases delivery.cause with
  | received => rfl
  | dispatched => rfl
  | presented =>
      show (blockPresented _).deeds = _
      unfold blockPresented
      split <;> rfl

theorem deeds_finish (invocation : Invocation) :
    (machine.finish invocation).deeds = machine.deeds := by
  simp only [finish]
  cases invocation.script.ending <;> rfl

end Blocks

/-- Of all operations only an action through a kept handle takes an action. -/
theorem deeds_begin (machine : Machine) (operation : Operation) :
    (machine.begin operation).deeds =
      ((operation.acting? machine.kept).map fun (handle, action) =>
        machine.deed handle action).toList ++ machine.deeds := by
  cases operation with
  | receive frame point =>
      have htaken : ((machine.record (.began (.receive frame point))).takeIn frame point
          .received).1.deeds = machine.deeds := deeds_takeIn _ _ _ _
      simp only [begin]
      split
      · next heq =>
          rw [heq] at htaken
          exact htaken
      · next heq =>
          rw [heq] at htaken
          exact htaken
  | act slot action =>
      have hkept : (machine.record (.began (.act slot action))).kept = machine.kept := rfl
      simp only [begin, Operation.acting?]
      rw [hkept]
      cases machine.kept.lookup slot <;> rfl
  | _ => rfl

theorem deeds_perform (machine : Machine) (handle : Handle) (step : Step) :
    (machine.perform handle step).deeds =
      ((step.acting? machine.kept handle).map fun (handle, action) =>
        machine.deed handle action).toList ++ machine.deeds := by
  cases step with
  | act action => rfl
  | keep slot => rfl
  | perform operation => exact deeds_begin machine operation

/-- A step takes the action that it is about to take, and no other. -/
theorem deeds_step (handlers : Handlers) (machine : Machine) :
    (step handlers machine).deeds =
      (machine.acting?.map fun (handle, action) => machine.deed handle action).toList ++
        machine.deeds := by
  unfold step
  split
  · next htasks =>
      split
      · next hagenda =>
          simp only [acting?, htasks, hagenda]
          rfl
      · next operation agenda hagenda =>
          have hacting : machine.acting? = operation.acting? machine.kept := by
            simp only [acting?, htasks, hagenda]
            rfl
          rw [hacting]
          exact deeds_begin { machine with agenda := agenda } operation
  · next packet tasks htasks =>
      simp only [acting?, htasks]
      exact deeds_reply _ _
  · next packet left tasks htasks =>
      simp only [acting?, htasks]
      exact deeds_present _ _ _
  · next delivery tasks htasks =>
      simp only [acting?, htasks]
      split
      · exact deeds_conclude _ _
      · rfl
  · next invocation tasks htasks =>
      split
      · next hsteps =>
          simp only [acting?, htasks, hsteps]
          exact deeds_finish _ _
      · next first steps hsteps =>
          have hdeed : ∀ handle action, { machine with tasks := .running { invocation with
              script := { invocation.script with steps := steps } } :: tasks }.deed handle action =
                machine.deed handle action := by
            intro handle action
            simp only [deed, runner?, htasks]
            rfl
          simp only [acting?, htasks, hsteps]
          rw [deeds_perform]
          simp only [hdeed]
          rfl

variable (order : Order) (handlers : Handlers)

/-- Whatever has been done in a run was done by one of its steps, in the state before it. -/
theorem exists_acting_of_mem_deeds {machine : Machine} {deed : Deed} {n : Nat}
    (hnone : machine.deeds = []) (h : deed ∈ (runIn order handlers n machine).deeds) :
    ∃ m < n, ∃ handle action, (runIn order handlers m machine).acting? = some (handle, action) ∧
      deed = (runIn order handlers m machine).deed handle action := by
  induction n with
  | zero =>
      have hstart : deed ∈ machine.deeds := h
      rw [hnone] at hstart
      exact absurd hstart List.not_mem_nil
  | succ n ih =>
      rw [runIn_succ] at h
      have hstep : deed ∈ (step handlers (runIn order handlers n machine)).deeds := h
      rw [deeds_step] at hstep
      rcases List.mem_append.mp hstep with hnew | hold
      · obtain ⟨⟨handle, action⟩, hacting, hdeed⟩ :=
          Option.map_eq_some_iff.mp (Option.mem_toList.mp hnew)
        exact ⟨n, Nat.lt_succ_self n, handle, action, hacting, hdeed.symm⟩
      · obtain ⟨m, hm, hfound⟩ := ih hold
        exact ⟨m, Nat.lt_succ_of_lt hm, hfound⟩

theorem mem_kept_of_lookup {machine : Machine} {slot : String} {handle : Handle}
    (h : machine.kept.lookup slot = some handle) : (slot, handle) ∈ machine.kept := by
  obtain ⟨before, after, hsplit, -⟩ := List.lookup_eq_some_iff.mp h
  rw [hsplit]
  exact List.mem_append_right _ List.mem_cons_self

/-- The handle of an action has been given to a handler. -/
theorem exists_invoked_of_acting {machine : Machine} (h : machine.outline.Traced)
    {handle : Handle} {action : Action} (hacting : machine.acting? = some (handle, action)) :
    ∃ number registration, .invoked number registration handle ∈ machine.outline.marks := by
  have hkept : ∀ operation : Operation,
      operation.acting? machine.kept = some (handle, action) →
        ∃ number registration, .invoked number registration handle ∈ machine.outline.marks := by
    intro operation hoperation
    cases operation with
    | act slot other =>
        obtain ⟨found, hfound, heq⟩ := Option.map_eq_some_iff.mp hoperation
        cases heq
        exact h.kept slot handle (mem_kept_of_lookup hfound)
    | _ => cases hoperation
  unfold acting? at hacting
  split at hacting
  · obtain ⟨operation, -, hoperation⟩ := Option.bind_eq_some_iff.mp hacting
    exact hkept operation hoperation
  · next invocation tasks htasks =>
      obtain ⟨first, -, hfirst⟩ := Option.bind_eq_some_iff.mp hacting
      cases first with
      | act other =>
          cases hfirst
          exact ⟨_, _, h.invocation _ _ _ _ (levels_outline htasks ▸ List.mem_cons_self)⟩
      | keep slot => cases hfirst
      | perform operation => exact hkept operation hfirst
  · cases hacting

/-- Every frame that was sent in a run, on whosever behalf, was sent by an action that a step of the
run took. It left through an attachment point that was recognised at that moment as facing hosts, and
it is what the action may send for the message that its handle stands for: the one message dispatched
under the number of the handle, which had been given to a handler before. -/
theorem sent_guarded (app : App) (settings : Settings) (inventory : Inventory)
    (agenda : List Operation) {n : Nat} {runner : Option Nat} {emission : Emission}
    (h : emission ∈ Events.sentBy runner
      (runIn order handlers n (start app settings inventory agenda)).history) :
    ∃ m < n, ∃ handle action,
      let machine := runIn order handlers m (start app settings inventory agenda)
      machine.acting? = some (handle, action) ∧ machine.runner? = runner ∧
        machine.inventory.isEdge emission.point ∧
        action.Sends machine.inventory.edges handle.arrival emission ∧
        (∃ number registration, .invoked number registration handle ∈ machine.history) ∧
        ∀ other, .dispatched other ∈ machine.history ∧ other.message = handle.message ↔
          other = handle := by
  obtain ⟨deed, hdeed, hrunner, hsent⟩ := Events.mem_sentBy_iff.mp h
  obtain ⟨m, hm, handle, action, hacting, rfl⟩ :=
    exists_acting_of_mem_deeds order handlers rfl hdeed
  obtain ⟨hedge, hsends⟩ := Action.mem_sent_perform_iff.mp hsent
  have htraced := traced_runIn order handlers m
    (numbered_start app settings inventory agenda) (traced_start app settings inventory agenda)
  obtain ⟨number, registration, hinvoked⟩ := exists_invoked_of_acting htraced hacting
  have hdispatched := htraced.invoked _ _ _ hinvoked
  refine ⟨m, hm, handle, action, hacting, hrunner, hedge, hsends,
    ⟨number, registration, mem_history_of_mem_marks hinvoked⟩, fun other => ⟨?_, ?_⟩⟩
  · rintro ⟨hother, hmessage⟩
    exact htraced.unique handle other hdispatched (List.mem_filter.mpr ⟨hother, rfl⟩) hmessage
  · rintro rfl
    exact ⟨mem_history_of_mem_marks hdispatched, rfl⟩

end Machine

namespace Upheaval

open Sample (point app arrival)

/-- The answer given through a kept handle after the shutdown leaves as any other. -/
theorem sent_upheaval :
    ⟨point, arrival.answer .zero⟩ ∈ Events.sentBy none (run 14).history ∧
      ∃ m < 14, ∃ handle action,
        (run m).acting? = some (handle, action) ∧ (run m).runner? = none ∧
          (run m).inventory.isEdge point ∧
          action.Sends (run m).inventory.edges handle.arrival ⟨point, arrival.answer .zero⟩ ∧
          ∃ number registration, .invoked number registration handle ∈ (run m).history := by
  have hsent : ⟨point, arrival.answer .zero⟩ ∈ Events.sentBy none (run 14).history := by
    have hall : Events.sentBy none (run 14).history = [⟨point, arrival.answer .zero⟩] := rfl
    rw [hall]
    exact List.mem_singleton_self _
  obtain ⟨m, hm, handle, action, hacting, hrunner, hedge, hsends, hinvoked, -⟩ :=
    Machine.sent_guarded .asRegistered handlers app .default inventory agenda hsent
  exact ⟨hsent, m, hm, handle, action, hacting, hrunner, hedge, hsends, hinvoked⟩

end Upheaval

end Neighbours
