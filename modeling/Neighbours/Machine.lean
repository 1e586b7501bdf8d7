import Neighbours.Arrival.Recognition
import Neighbours.Operation

/-! The state of a run. Handlers may ask for any operation while they run, so work in progress is a
stack of tasks; it is advanced in small steps, between which the state can be looked at. All that
can be observed of a run is in its history. -/

namespace Neighbours

/-- The right to act on one message. All actions on a message count together, whoever performs them.
-/
structure Handle where
  /-- Messages are numbered in the order of their dispatch. -/
  message : Nat
  arrival : Arrival
deriving DecidableEq

/-- What a message is dispatched for. -/
inductive Cause where
  | received
  | presented
  | dispatched
deriving DecidableEq

/-- A message being dispatched: who still has to see it, and how many have been invoked. -/
structure Delivery where
  handle : Handle
  cause : Cause
  waiting : List Registration
  invoked : Nat

/-- A running handler: what it has yet to do. -/
structure Invocation where
  /-- Invocations are numbered in the order of their start. -/
  number : Nat
  registration : Registration
  handle : Handle
  script : Script

inductive Task where
  | presenting (packet : Packet) (left : Nat)
  | delivering (delivery : Delivery)
  | running (invocation : Invocation)

inductive LogEntry where
  | failed (registration : Registration) (error : String)
  | panicked (registration : Registration)
  | duplicates (arrival : Arrival) (emissions : Nat)
deriving DecidableEq

def LogEntry.text : LogEntry → String
  | failed registration error =>
    s!"ERROR Neighbour handler failed handler={registration.handler} " ++
      s!"app_id={registration.app.text} error={error}"
  | panicked registration =>
    s!"ERROR Neighbour handler panicked handler={registration.handler} " ++
      s!"app_id={registration.app.text}"
  | duplicates arrival emissions =>
    s!"WARN Several handlers emitted for one neighbour message " ++
      s!"neighbour={arrival.text} emissions={emissions}"

/-- What can be observed of a run. Where it matters on whose behalf something happened, `runner` is
the number of the innermost running invocation, if any handler is running. -/
inductive Event where
  | began (operation : Operation)
  | commanded (command : Command) (calls : List Call) (answer : CommandAnswer)
  | presented (packet : Packet)
  | dispatched (handle : Handle)
  | invoked (invocation : Nat) (registration : Registration) (handle : Handle)
  /-- An action, the attachment points as they were known to it, and the frames it sent. -/
  | acted (runner : Option Nat) (handle : Handle) (action : Action) (inventory : Inventory)
      (sent : List Emission)
  | ended (invocation : Nat) (registration : Registration) (ending : Ending)
  /-- The end of a dispatch that invoked a number of handlers. -/
  | concluded (handle : Handle) (invoked : Nat)
  | logged (entry : LogEntry)
  | answered (runner : Option Nat) (answer : Answer)

structure Machine where
  engine : Engine
  inventory : Inventory
  /-- The handles kept by handlers, the latest first. -/
  kept : List (String × Handle)
  /-- For each message dispatched so far, how many actions on it sent something. The counts have no
  bound here. Counters of 64 bits, which begin again at zero, show the same as long as fewer than
  `2 ^ 64` actions are performed on one message. -/
  emissions : List Nat
  /-- The number of invocations so far. -/
  invocations : Nat
  /-- The work in progress, the innermost first. -/
  tasks : List Task
  /-- The operations still to be asked for from outside. -/
  agenda : List Operation
  /-- What has happened, the latest first. -/
  history : List Event

namespace Machine

def start (app : App) (settings : Settings) (inventory : Inventory) (agenda : List Operation) :
    Machine :=
  ⟨.start app settings, inventory, [], [], 0, [], agenda, []⟩

def record (machine : Machine) (event : Event) : Machine :=
  { machine with history := event :: machine.history }

/-- The innermost running invocation. -/
def runner? (machine : Machine) : Option Nat :=
  machine.tasks.findSome? fun
    | .running invocation => some invocation.number
    | _ => none

def count (machine : Machine) (update : Stats → Stats) : Machine :=
  { machine with engine := { machine.engine with stats := update machine.engine.stats } }

def log (machine : Machine) (entry : LogEntry) : Machine :=
  machine.record (.logged entry)

def reply (machine : Machine) (answer : Answer) : Machine :=
  machine.record (.answered machine.runner? answer)

def push (machine : Machine) (task : Task) : Machine :=
  { machine with tasks := task :: machine.tasks }

/-- Performs an action on a message. However many frames it sends, it counts once for the message.
-/
def act (machine : Machine) (handle : Handle) (action : Action) : Machine :=
  let transmission := action.perform machine.inventory handle.arrival machine.engine.stats
  let emissions :=
    if transmission.sent.isEmpty then machine.emissions
    else machine.emissions.modify handle.message (· + 1)
  { machine with
    engine := { machine.engine with stats := transmission.stats }
    emissions := emissions }.record
      (.acted machine.runner? handle action machine.inventory transmission.sent)

/-- Starts the dispatch of a message to the handlers registered for it at this moment. -/
def dispatch (machine : Machine) (arrival : Arrival) (cause : Cause) : Machine :=
  let handle : Handle := ⟨machine.emissions.length, arrival⟩
  let waiting := (machine.engine.registry.group arrival.point).filter (·.accepts arrival)
  ({ machine.count Stats.countDispatched with emissions := machine.emissions ++ [0] }.record
    (.dispatched handle)).push (.delivering ⟨handle, cause, waiting, 0⟩)

/-- Takes in a frame: a neighbour message is dispatched, anything else is ignored. -/
def takeIn (machine : Machine) (frame : Bytes) (point : Point) (cause : Cause) : Machine × Bool :=
  let machine := machine.count Stats.countReceived
  match Arrival.ofFrame? frame point with
  | some arrival => (machine.dispatch arrival cause, true)
  | none => (machine.count Stats.countIgnored, false)

end Machine

end Neighbours
