import Mathlib.Algebra.GroupWithZero.Nat
import Neighbours.Proofs.Counters
import Neighbours.Proofs.Emission

/-! Conservation of what is counted. The counters say how often what happened; here these numbers are set
against each other and against what is observed elsewhere: frames against messages, invocations against
what dispatches have told of and against faults, frames sent and held back against what actions have
tried to send. -/

namespace Neighbours

/-! Invocations under way have started and not ended, and dispatches under way have counted those they
have invoked. -/

def Event.endsInvocation : Event → Bool
  | .ended .. => true
  | _ => false

/-- The number of handlers that a dispatch has invoked, if the event ends one. -/
def Event.total? : Event → Option Nat
  | .concluded _ count => some count
  | _ => none

namespace Event

variable {event : Event}

theorem isMark_of_startsInvocation (h : event.startsInvocation = true) : event.isMark = true := by
  cases event with
  | invoked number registration handle => rfl
  | _ => cases h

theorem isMark_of_endsInvocation (h : event.endsInvocation = true) : event.isMark = true := by
  cases event with
  | ended number registration ending => rfl
  | _ => cases h

theorem endsInvocation_of_endsInFault (h : event.endsInFault = true) :
    event.endsInvocation = true := by
  cases event with
  | ended number registration ending => rfl
  | _ => cases h

theorem total?_of_not_isMark (h : event.isMark = false) : event.total? = none := by
  cases event with
  | concluded handle count => cases h
  | _ => rfl

end Event

/-- The number of handlers that a dispatch under way has invoked. -/
def Level.invoked? : Level → Option Nat
  | .delivery ⟨_, _, _, count⟩ => some count
  | _ => none

namespace Outline

/-- Every invocation that has started has ended or is under way, and is counted by a dispatch that is
over or under way. -/
structure Reckoned (outline : Outline) : Prop where
  invocations : outline.marks.countP Event.startsInvocation =
    outline.marks.countP Event.endsInvocation + (numbersOf outline.levels).length
  totals : outline.marks.countP Event.startsInvocation =
    (outline.marks.filterMap Event.total?).sum + (outline.levels.filterMap Level.invoked?).sum

namespace Reckoned

variable {outline : Outline} (h : outline.Reckoned)
include h

theorem arranged (order : Order) : (outline.arranged order).Reckoned := by
  have hlevels : (order.arrangeLevels outline.levels).filterMap Level.invoked? =
      outline.levels.filterMap Level.invoked? := by
    cases outline.levels with
    | nil => rfl
    | cons level rest => cases level <;> rfl
  refine ⟨?_, ?_⟩
  · rw [Outline.arranged, numbersOf_arrangeLevels]
    exact h.invocations
  · rw [Outline.arranged, hlevels]
    exact h.totals

theorem opened (arrival : Arrival) (cause : Cause) : (outline.opened arrival cause).Reckoned := by
  obtain ⟨hinvocations, htotals⟩ := h
  cases cause <;> constructor <;>
    simpa [Outline.opened, Cause.asking, List.countP_cons, List.filterMap_cons, numbersOf,
      Level.number?, Level.invoked?, Event.endsInvocation, Event.startsInvocation, Event.total?]

theorem invoked {delivery : Delivery} {waiting : List Registration} {rest : List Level}
    (hlevels : outline.levels = .delivery delivery :: rest) (handlers : Handlers)
    (registration : Registration) :
    (outline.invoked handlers delivery registration waiting rest).Reckoned := by
  obtain ⟨hinvocations, htotals⟩ := h
  rw [hlevels] at hinvocations htotals
  constructor
  · simp [Outline.invoked, List.countP_cons, List.filterMap_cons, numbersOf, Level.number?,
      Event.endsInvocation, Event.startsInvocation] at hinvocations ⊢
    omega
  · simp [Outline.invoked, List.countP_cons, List.filterMap_cons, Level.invoked?, Event.total?,
      Event.startsInvocation] at htotals ⊢
    omega

theorem concluded {delivery : Delivery} {rest : List Level}
    (hlevels : outline.levels = .delivery delivery :: rest) :
    (outline.concluded delivery rest).Reckoned := by
  obtain ⟨hinvocations, htotals⟩ := h
  rw [hlevels] at hinvocations htotals
  cases hcause : delivery.cause <;> constructor <;>
    simp [Outline.concluded, hcause, Cause.telling, List.filterMap_cons, numbersOf, Level.number?,
      Level.invoked?, Event.endsInvocation, Event.startsInvocation, Event.total?]
      at hinvocations htotals ⊢ <;> omega

theorem ended {number : Nat} {registration : Registration} {handle : Handle} {ending : Ending}
    {rest : List Level}
    (hlevels : outline.levels = .invocation number registration handle ending :: rest) :
    (outline.ended number registration ending rest).Reckoned := by
  obtain ⟨hinvocations, htotals⟩ := h
  rw [hlevels] at hinvocations htotals
  cases ending <;> constructor <;>
    simp [Outline.ended, Ending.entry?, List.countP_cons, List.filterMap_cons, numbersOf,
      Level.number?, Level.invoked?, Event.endsInvocation, Event.startsInvocation, Event.total?]
      at hinvocations htotals ⊢ <;> omega

theorem turn {handlers : Handlers} {after : Outline} (hturn : outline.Turn handlers after) :
    after.Reckoned := by
  cases hturn with
  | quiet => exact h
  | governed registry hgrouped => exact ⟨h.invocations, h.totals⟩
  | kept slot number registration handle ending rest hlevels => exact ⟨h.invocations, h.totals⟩
  | presents => exact ⟨h.invocations, h.totals⟩
  | passes rest hlevels =>
      obtain ⟨hinvocations, htotals⟩ := h
      rw [hlevels] at hinvocations htotals
      exact ⟨hinvocations, htotals⟩
  | opens arrival cause => exact h.opened arrival cause
  | invokes delivery registration waiting rest hlevels hwaiting =>
      exact h.invoked hlevels handlers registration
  | concludes delivery rest hlevels hwaiting => exact h.concluded hlevels
  | ends number registration handle ending rest hlevels => exact h.ended hlevels

end Reckoned

end Outline

/-! What an action attempts. -/

namespace Action

/-- How many frames an action tries to send: one if it answers or forwards the message, and one for
every point enumerated but that of the message if it floods it. -/
def transmissions (edges : List Point) (arrival : Arrival) : Action → Nat
  | answer _ | forward _ | forwardTo _ => 1
  | flood => edges.countP (· ≠ arrival.point)
  | drop => 0

theorem length_attempts (edges : List Point) (arrival : Arrival) (action : Action) :
    (action.attempts edges arrival).length = action.transmissions edges arrival := by
  cases action with
  | flood => exact (List.length_map _).trans (List.countP_eq_length_filter).symm
  | _ => rfl

theorem length_sent_add_length_held (inventory : Inventory) (arrival : Arrival) (action : Action) :
    (action.sent inventory arrival).length + (action.held inventory arrival).length =
      action.transmissions inventory.edges arrival := by
  rw [← length_attempts]
  exact (List.length_eq_length_filter_add _).symm

end Action

def Deed.transmissions (deed : Deed) : Nat :=
  deed.action.transmissions deed.inventory.edges deed.handle.arrival

theorem Events.length_sent_add_length_held {events : List Event}
    (h : ∀ deed ∈ events.filterMap Event.deed?,
      deed.sent = deed.action.sent deed.inventory deed.handle.arrival) :
    (sent events).length + (held events).length =
      ((events.filterMap Event.deed?).map Deed.transmissions).sum := by
  induction events with
  | nil => rfl
  | cons event events ih =>
      cases event with
      | acted runner handle action inventory frames =>
          have hframes : frames = action.sent inventory handle.arrival := h _ List.mem_cons_self
          have hrest := ih fun deed hdeed => h deed (List.mem_cons_of_mem _ hdeed)
          have hfirst := action.length_sent_add_length_held inventory handle.arrival
          rw [← hframes] at hfirst
          have hsent : sent (.acted runner handle action inventory frames :: events) =
              frames ++ sent events := rfl
          have hheld : held (.acted runner handle action inventory frames :: events) =
              action.held inventory handle.arrival ++ held events := rfl
          have hdeeds : (.acted runner handle action inventory frames :: events).filterMap
              Event.deed? = ⟨runner, handle, action, inventory, frames⟩ ::
                events.filterMap Event.deed? := rfl
          rw [hsent, hheld, hdeeds, List.length_append, List.length_append, List.map_cons,
            List.sum_cons, Deed.transmissions, ← hfirst, ← hrest]
          omega
      | _ => exact ih h

namespace Machine

/-- What can be counted in the marks alone can be counted in them instead of the history. -/
theorem countP_marks (machine : Machine) {counts : Event → Bool}
    (h : ∀ event : Event, counts event = true → event.isMark = true) :
    machine.outline.marks.countP counts = machine.history.countP counts := by
  rw [outline, List.countP_filter]
  apply List.countP_congr
  intro event _
  rw [Bool.and_eq_true]
  exact ⟨And.left, fun hcounts => ⟨hcounts, h event hcounts⟩⟩

variable (order : Order) (handlers : Handlers) (app : App) (settings : Settings)
  (inventory : Inventory) (agenda : List Operation)

theorem accounted_runIn (n : Nat) :
    (runIn order handlers n (start app settings inventory agenda)).Accounted := by
  have hstart : (start app settings inventory agenda).Accounted := by
    have hnothing : Stats.zero = .ofHistory [] := by decide
    exact hnothing
  exact runIn_preserve order handlers (fun _ h => (h.step handlers).withTasks _) n hstart

theorem reckoned_runIn (n : Nat) :
    (runIn order handlers n (start app settings inventory agenda)).outline.Reckoned :=
  outline_preserve order handlers (fun _ _ hturn h => h.turn hturn) (fun _ h => h.arranged order) n
    ⟨rfl, rfl⟩

/-- The counters agree in every state of every run. Frames are received when they are handed over or
presented unblocked, and ignored if they are no neighbour messages; all others are dispatched, and so is
what is dispatched by name. Handlers are invoked when an invocation starts, and when no dispatch is under
way those invoked are those that dispatches have told of. As many faults are counted as invocations have
ended in one, never more than have started. The frames emitted are those that actions have sent, and
together with those guarded they are all that actions have tried to send. -/
theorem counters_conserved (n : Nat) :
    let machine := runIn order handlers n (start app settings inventory agenda)
    let events := machine.history
    let stats := machine.engine.stats
    stats.received = .ofNat (events.countP (·.offered?.isSome)) ∧
      stats.ignored = .ofNat (events.countP Event.offersOther) ∧
      stats.dispatched =
        stats.received - stats.ignored + .ofNat (events.countP Event.asksDispatch) ∧
      stats.invoked = .ofNat (events.countP Event.startsInvocation) ∧
      ((∀ delivery, .delivering delivery ∉ machine.tasks) →
        events.countP Event.startsInvocation = (events.filterMap Event.total?).sum) ∧
      stats.faults = .ofNat (events.countP Event.endsInFault) ∧
      events.countP Event.endsInFault ≤ events.countP Event.startsInvocation ∧
      (events.countP Event.startsInvocation < UInt64.size → stats.faults ≤ stats.invoked) ∧
      stats.emitted = .ofNat (Events.sent events).length ∧
      stats.emitted + stats.guarded = .ofNat (machine.deeds.map Deed.transmissions).sum := by
  intro machine events stats
  have haccounted : stats = .ofHistory events :=
    accounted_runIn order handlers app settings inventory agenda n
  obtain ⟨hinvocations, htotals⟩ := reckoned_runIn order handlers app settings inventory agenda n
  have hstarts : machine.outline.marks.countP Event.startsInvocation =
      events.countP Event.startsInvocation :=
    countP_marks machine fun _ => Event.isMark_of_startsInvocation
  have hends : machine.outline.marks.countP Event.endsInvocation =
      events.countP Event.endsInvocation :=
    countP_marks machine fun _ => Event.isMark_of_endsInvocation
  have hfaults : events.countP Event.endsInFault ≤ events.countP Event.startsInvocation := by
    calc events.countP Event.endsInFault
        ≤ events.countP Event.endsInvocation :=
          List.countP_mono_left fun _ _ => Event.endsInvocation_of_endsInFault
      _ ≤ events.countP Event.startsInvocation := by
          rw [← hends, ← hstarts, hinvocations]
          exact Nat.le_add_right _ _
  have hinvoked : stats.invoked = .ofNat (events.countP Event.startsInvocation) :=
    congrArg Stats.invoked haccounted
  have hfaulty : stats.faults = .ofNat (events.countP Event.endsInFault) :=
    congrArg Stats.faults haccounted
  have hemitted : stats.emitted = .ofNat (Events.sent events).length :=
    congrArg Stats.emitted haccounted
  have hguarded : stats.guarded = .ofNat (Events.held events).length :=
    congrArg Stats.guarded haccounted
  refine ⟨congrArg Stats.received haccounted, congrArg Stats.ignored haccounted, ?_, hinvoked, ?_,
    hfaulty, hfaults, ?_, hemitted, ?_⟩
  · rw [haccounted]
    rfl
  · intro hnone
    have hover : machine.outline.levels.filterMap Level.invoked? = [] := by
      apply List.filterMap_eq_nil_iff.mpr
      intro level hlevel
      obtain ⟨task, htask, rfl⟩ := List.mem_map.mp hlevel
      cases task with
      | delivering delivery => exact absurd htask (hnone delivery)
      | presenting packet left => rfl
      | running invocation => rfl
    have hmarks : machine.outline.marks.filterMap Event.total? = events.filterMap Event.total? :=
      machine.filterMap_marks fun _ => Event.total?_of_not_isMark
    rw [← hstarts, htotals, hover, hmarks]
    rfl
  · intro hsmall
    rw [hfaulty, hinvoked, UInt64.le_iff_toNat_le, UInt64.toNat_ofNat_of_lt' hsmall,
      UInt64.toNat_ofNat_of_lt' (Nat.lt_of_le_of_lt hfaults hsmall)]
    exact hfaults
  · rw [hemitted, hguarded, ← UInt64.ofNat_add]
    apply congrArg
    apply Events.length_sent_add_length_held
    intro deed hdeed
    obtain ⟨m, -, handle, action, -, rfl⟩ := exists_acting_of_mem_deeds order handlers rfl hdeed
    exact congrArg Transmission.sent (action.perform_eq _ _ _)

end Machine

end Neighbours
