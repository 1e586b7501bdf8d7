import Neighbours.Proofs.Routine

/-! What the counters count. At any moment, also while handlers are running, they are what has happened
so far adds up to: it does not matter whether a message came in a frame, in a packet or by itself, how
dispatches are nested, where a handler faults, and whose handle an action uses. -/

namespace Neighbours

namespace Event

/-- The frame that is offered to the engine: one that is handed over, or that of a packet which is not
blocked when it is presented. -/
def offered? : Event → Option (Bytes × Point)
  | .began (.receive frame point) => some (frame, point)
  | .presented packet => if packet.blocked then none else some (packet.frame, packet.point)
  | _ => none

/-- A frame is offered that is no neighbour message. -/
def offersOther (event : Event) : Bool :=
  event.offered?.any fun (frame, point) => (Arrival.ofFrame? frame point).isNone

/-- The dispatch of a message is asked for by name. -/
def asksDispatch : Event → Bool
  | .began (.dispatch _) => true
  | _ => false

def startsInvocation : Event → Bool
  | .invoked .. => true
  | _ => false

def endsInFault : Event → Bool
  | .ended _ _ ending => ending.isFault
  | _ => false

/-- The kinds of events that counters count. -/
def isCounted : Event → Bool
  | .began (.receive ..) | .began (.dispatch _) | .presented _ => true
  | .invoked .. | .acted .. | .ended .. => true
  | _ => false

end Event

/-- All frames held back, of whosever actions. -/
def Events.held (events : List Event) : List Emission :=
  events.flatMap fun
    | .acted _ handle action inventory _ => action.held inventory handle.arrival
    | _ => []

theorem Events.held_append (old new : List Event) : held (old ++ new) = held old ++ held new :=
  List.flatMap_append

namespace Stats

/-- The counters that a history accounts for. -/
def ofHistory (history : List Event) : Stats where
  received := .ofNat (history.countP (·.offered?.isSome))
  ignored := .ofNat (history.countP Event.offersOther)
  dispatched := .ofNat (history.countP (·.offered?.isSome)) -
    .ofNat (history.countP Event.offersOther) + .ofNat (history.countP Event.asksDispatch)
  invoked := .ofNat (history.countP Event.startsInvocation)
  faults := .ofNat (history.countP Event.endsInFault)
  emitted := .ofNat (Events.sent history).length
  guarded := .ofNat (Events.held history).length

/-- The counters after a frame has been taken in. -/
def takenIn (stats : Stats) (frame : Bytes) (point : Point) : Stats :=
  match Arrival.ofFrame? frame point with
  | some _ => stats.countReceived.countDispatched
  | none => stats.countReceived.countIgnored

section Cons

variable (history : List Event)

/-- What an event adds to each of the counters. -/
theorem ofHistory_cons (event : Event) :
    let before := ofHistory history
    ofHistory (event :: history) =
      { received := before.received + .ofNat (if event.offered?.isSome then 1 else 0)
        ignored := before.ignored + .ofNat (if event.offersOther then 1 else 0)
        dispatched := before.dispatched + (.ofNat (if event.offered?.isSome then 1 else 0) -
          .ofNat (if event.offersOther then 1 else 0) +
            .ofNat (if event.asksDispatch then 1 else 0))
        invoked := before.invoked + .ofNat (if event.startsInvocation then 1 else 0)
        faults := before.faults + .ofNat (if event.endsInFault then 1 else 0)
        emitted := before.emitted + .ofNat (Events.sent [event]).length
        guarded := before.guarded + .ofNat (Events.held [event]).length } := by
  intro before
  have hsent : Events.sent (event :: history) = Events.sent [event] ++ Events.sent history :=
    Events.sent_append [event] history
  have hheld : Events.held (event :: history) = Events.held [event] ++ Events.held history :=
    Events.held_append [event] history
  simp only [before, ofHistory, List.countP_cons, hsent, hheld, List.length_append, UInt64.ofNat_add,
    mk.injEq, true_and]
  refine ⟨?_, UInt64.add_comm _ _, UInt64.add_comm _ _⟩
  -- Differences of counters may wrap around, so this is arithmetic modulo `2 ^ 64`.
  grind

theorem ofHistory_uncounted {event : Event} (h : event.isCounted = false) :
    ofHistory (event :: history) = ofHistory history := by
  have hquiet : event.offered? = none ∧ event.asksDispatch = false ∧
      event.startsInvocation = false ∧ event.endsInFault = false ∧
      Events.sent [event] = [] ∧ Events.held [event] = [] := by
    cases event with
    | began operation =>
        cases operation with
        | receive frame point => cases h
        | dispatch arrival => cases h
        | _ => exact ⟨rfl, rfl, rfl, rfl, rfl, rfl⟩
    | presented packet => cases h
    | invoked number registration handle => cases h
    | acted runner handle action inventory sent => cases h
    | ended number registration ending => cases h
    | _ => exact ⟨rfl, rfl, rfl, rfl, rfl, rfl⟩
  rw [ofHistory_cons]
  simp [hquiet, Event.offersOther]

theorem ofHistory_offered {event : Event} {frame : Bytes} {point : Point}
    (h : event.offered? = some (frame, point)) :
    ofHistory (event :: history) = (ofHistory history).takenIn frame point := by
  have hquiet : event.asksDispatch = false ∧ event.startsInvocation = false ∧
      event.endsInFault = false ∧ Events.sent [event] = [] ∧ Events.held [event] = [] := by
    cases event with
    | began operation =>
        cases operation with
        | receive frame point => exact ⟨rfl, rfl, rfl, rfl, rfl⟩
        | _ => cases h
    | presented packet => exact ⟨rfl, rfl, rfl, rfl, rfl⟩
    | _ => cases h
  rw [ofHistory_cons, takenIn]
  cases hframe : Arrival.ofFrame? frame point <;>
    simp [hquiet, h, hframe, Event.offersOther, countReceived, countDispatched, countIgnored]

theorem ofHistory_blocked {packet : Packet} (h : packet.blocked = true) :
    ofHistory (.presented packet :: history) = ofHistory history := by
  have hnone : (Event.presented packet).offered? = none := if_pos h
  rw [ofHistory_cons]
  simp [hnone, Event.offersOther, Event.asksDispatch, Event.startsInvocation, Event.endsInFault,
    Events.sent, Events.held]

theorem ofHistory_dispatch (arrival : Arrival) :
    ofHistory (.began (.dispatch arrival) :: history) = (ofHistory history).countDispatched := by
  rw [ofHistory_cons]
  simp [countDispatched, Event.offered?, Event.offersOther, Event.asksDispatch,
    Event.startsInvocation, Event.endsInFault, Events.sent, Events.held]

theorem ofHistory_invoked (number : Nat) (registration : Registration) (handle : Handle) :
    ofHistory (.invoked number registration handle :: history) = (ofHistory history).countInvoked := by
  rw [ofHistory_cons]
  simp [countInvoked, Event.offered?, Event.offersOther, Event.asksDispatch,
    Event.startsInvocation, Event.endsInFault, Events.sent, Events.held]

theorem ofHistory_ended (number : Nat) (registration : Registration) (ending : Ending) :
    ofHistory (.ended number registration ending :: history) =
      if ending.isFault then (ofHistory history).countFault else ofHistory history := by
  rw [ofHistory_cons]
  cases hfault : ending.isFault <;>
    simp [hfault, countFault, Event.offered?, Event.offersOther, Event.asksDispatch,
      Event.startsInvocation, Event.endsInFault, Events.sent, Events.held]

theorem ofHistory_acted (runner : Option Nat) (handle : Handle) (action : Action)
    (inventory : Inventory) (sent : List Emission) :
    ofHistory (.acted runner handle action inventory sent :: history) =
      (ofHistory history).transmitted sent.length (action.held inventory handle.arrival).length := by
  rw [ofHistory_cons]
  simp [transmitted, Event.offered?, Event.offersOther, Event.asksDispatch,
    Event.startsInvocation, Event.endsInFault, Events.sent, Events.held]

end Cons

end Stats

namespace Machine

/-- The counters are what the history accounts for. -/
def Accounted (machine : Machine) : Prop :=
  machine.engine.stats = .ofHistory machine.history

namespace Accounted

variable {machine : Machine} (h : machine.Accounted)
include h

theorem record {event : Event} (hevent : event.isCounted = false) :
    (machine.record event).Accounted :=
  Eq.trans h (Stats.ofHistory_uncounted _ hevent).symm

theorem reply (answer : Answer) : (machine.reply answer).Accounted :=
  h.record rfl

theorem withTasks (tasks : List Task) : { machine with tasks := tasks }.Accounted :=
  h

/-- What is sent and what is held back are counted apart. -/
theorem act (handle : Handle) (action : Action) : (machine.act handle action).Accounted := by
  have hperform := action.perform_eq machine.inventory handle.arrival machine.engine.stats
  have hsent : (action.perform machine.inventory handle.arrival machine.engine.stats).sent =
      action.sent machine.inventory handle.arrival := congrArg Transmission.sent hperform
  calc (machine.act handle action).engine.stats
      = machine.engine.stats.transmitted (action.sent machine.inventory handle.arrival).length
          (action.held machine.inventory handle.arrival).length :=
        congrArg Transmission.stats hperform
    _ = (Stats.ofHistory machine.history).transmitted
          (action.sent machine.inventory handle.arrival).length
          (action.held machine.inventory handle.arrival).length := by rw [← h]
    _ = Stats.ofHistory (machine.act handle action).history := by
        rw [← hsent]
        exact (Stats.ofHistory_acted _ _ _ _ _ _).symm

/-- A frame that has been offered is counted when it is taken in. -/
theorem takeIn {event : Event} {frame : Bytes} {point : Point}
    (hevent : event.offered? = some (frame, point)) (cause : Cause) :
    ((machine.record event).takeIn frame point cause).1.Accounted := by
  have hhistory : Stats.ofHistory (event :: machine.history) =
      machine.engine.stats.takenIn frame point := by
    rw [Stats.ofHistory_offered _ hevent, ← h]
  simp only [Machine.takeIn]
  cases hframe : Arrival.ofFrame? frame point with
  | some arrival =>
      apply Eq.trans _ (Stats.ofHistory_uncounted _ rfl).symm
      refine Eq.trans ?_ hhistory.symm
      rw [Stats.takenIn, hframe]
      rfl
  | none =>
      refine Eq.trans ?_ hhistory.symm
      rw [Stats.takenIn, hframe]
      rfl

theorem begin (operation : Operation) : (machine.begin operation).Accounted := by
  cases operation with
  | command command =>
      have hbegan : (machine.record (.began (.command command))).Accounted := h.record rfl
      have hgoverned : { machine.record (.began (.command command)) with
          engine := (machine.engine.run command).engine }.Accounted :=
        Eq.trans (machine.engine.stats_run command) hbegan
      exact (hgoverned.record rfl).reply _
  | receive frame point =>
      have htaken : ((machine.record (.began (.receive frame point))).takeIn frame point
          .received).1.Accounted := h.takeIn rfl .received
      simp only [Machine.begin]
      split
      · next heq => rwa [heq] at htaken
      · next heq =>
          rw [heq] at htaken
          exact htaken.reply _
  | present packet times => exact h.record rfl
  | dispatch arrival =>
      apply Eq.trans _ (Stats.ofHistory_uncounted _ rfl).symm
      apply Eq.trans _ (Stats.ofHistory_dispatch _ arrival).symm
      exact congrArg Stats.countDispatched h
  | act slot action =>
      have hbegan : (machine.record (.began (.act slot action))).Accounted := h.record rfl
      simp only [Machine.begin]
      split
      · exact (hbegan.act _ _).reply _
      · exact hbegan.reply _
  | replaceInventory inventory => exact (h.record rfl).record rfl
  | readSettings => exact (h.record rfl).reply _
  | readRegistrations => exact (h.record rfl).reply _
  | readApp => exact (h.record rfl).reply _
  | idle => exact (h.record rfl).reply _

theorem present (packet : Packet) (left : Nat) : (machine.present packet left).Accounted := by
  simp only [Machine.present]
  split
  · next hblocked => exact Eq.trans h (Stats.ofHistory_blocked _ hblocked).symm
  · next hblocked =>
      have hpushed : (machine.push (.presenting packet left)).Accounted := h
      have hoffered : (Event.presented packet).offered? = some (packet.frame, packet.point) :=
        if_neg hblocked
      exact hpushed.takeIn hoffered .presented

theorem conclude (delivery : Delivery) : (machine.conclude delivery).Accounted := by
  have hlogged : (if machine.engine.warnsDuplicates &&
          decide (1 < machine.emissions.getD delivery.handle.message 0) then
        machine.log (.duplicates delivery.handle.arrival
          (machine.emissions.getD delivery.handle.message 0))
      else machine).Accounted := by
    split
    · exact h.record rfl
    · exact h
  simp only [Machine.conclude]
  cases delivery.cause with
  | received => exact (hlogged.record rfl).reply _
  | dispatched => exact (hlogged.record rfl).reply _
  | presented =>
      rw [blockPresented_eq]
      exact (hlogged.record rfl).withTasks _

theorem finish (invocation : Invocation) : (machine.finish invocation).Accounted := by
  have hended := Stats.ofHistory_ended machine.history invocation.number invocation.registration
  simp only [Machine.finish]
  cases invocation.script.ending with
  | normal => exact Eq.trans h (hended .normal).symm
  | failed error =>
      apply Eq.trans _ (Stats.ofHistory_uncounted _ rfl).symm
      exact Eq.trans (congrArg Stats.countFault h) (hended (.failed error)).symm
  | panicked =>
      apply Eq.trans _ (Stats.ofHistory_uncounted _ rfl).symm
      exact Eq.trans (congrArg Stats.countFault h) (hended .panicked).symm

theorem perform (handle : Handle) (step : Step) : (machine.perform handle step).Accounted := by
  cases step with
  | act action => exact h.act handle action
  | keep slot => exact h
  | perform operation => exact h.begin operation

theorem step (handlers : Handlers) : (step handlers machine).Accounted := by
  unfold Machine.step
  split
  · split
    · exact h
    · next operation agenda _ =>
        have hnext : { machine with agenda := agenda }.Accounted := h
        exact hnext.begin operation
  · exact (h.withTasks _).reply _
  · exact (h.withTasks _).present _ _
  · split
    · exact (h.withTasks _).conclude _
    · exact Eq.trans (congrArg Stats.countInvoked h) (Stats.ofHistory_invoked _ _ _ _).symm
  · split
    · exact (h.withTasks _).finish _
    · exact (h.withTasks _).perform _ _

end Accounted

end Machine

end Neighbours
