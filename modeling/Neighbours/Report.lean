import Neighbours.Machine.Run

/-! What one operation came to, gathered from the history of a run: its answer, the calls to the
transport, the handlers invoked with what each sent and was answered, the frames sent while no
handler was running, and the log. -/

namespace Neighbours

structure InvocationReport where
  registration : Registration
  arrival : Arrival
  sent : List Emission
  answers : List Answer

structure Report where
  answer : Answer
  calls : List Call
  invocations : List InvocationReport
  sent : List Emission
  log : List LogEntry
  /-- The state after the operation. -/
  engine : Engine

namespace Events

/-- The frames sent on behalf of an invocation, or of none. -/
def sentBy (invocation : Option Nat) (events : List Event) : List Emission :=
  events.flatMap fun
    | .acted runner _ _ _ sent => if runner = invocation then sent else []
    | _ => []

/-- The answers given to an invocation, or to none. -/
def answersTo (invocation : Option Nat) (events : List Event) : List Answer :=
  events.filterMap fun
    | .answered runner answer => if runner = invocation then some answer else none
    | _ => none

def calls (events : List Event) : List Call :=
  events.flatMap fun
    | .commanded _ calls _ => calls
    | _ => []

def log (events : List Event) : List LogEntry :=
  events.filterMap fun
    | .logged entry => some entry
    | _ => none

def invocations (events : List Event) : List InvocationReport :=
  events.filterMap fun
    | .invoked number registration handle =>
      some ⟨registration, handle.arrival, sentBy (some number) events,
        answersTo (some number) events⟩
    | _ => none

end Events

namespace Report

/-- The report of a run's events in the order they happened, and of the engine after them. -/
def ofEvents (events : List Event) (engine : Engine) : Report :=
  ⟨(Events.answersTo none events).getLast?.getD .nothing, Events.calls events,
    Events.invocations events, Events.sentBy none events, Events.log events, engine⟩

/-- One report for each stage of a run that starts with history `before`. -/
def ofStages (before : Nat) : List Machine → List Report
  | [] => []
  | machine :: rest =>
    let events := (machine.history.take (machine.history.length - before)).reverse
    ofEvents events machine.engine :: ofStages machine.history.length rest

/-- The reports on all operations of an agenda, each of which takes at most `limit` steps. -/
def ofRun (handlers : Handlers) (limit : Nat) (machine : Machine) : List Report :=
  ofStages machine.history.length
    (Machine.stages handlers limit machine.agenda.length machine)

end Report

end Neighbours
