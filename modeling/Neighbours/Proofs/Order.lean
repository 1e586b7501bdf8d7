import Neighbours.Machine.Run

/-! The order in which handlers get to see a message. The registrations of an attachment point are a
set, and nothing is promised about the order in which they are gone through. What is to hold of every
run is therefore stated under an order that is arbitrary but for leaving nobody out: each time a
dispatch is about to go on, it puts those who wait in a row. -/

namespace Neighbours

/-- Who comes next, for the number of a message and the registrations that wait for it. -/
structure Order where
  arrange : Nat → List Registration → List Registration
  perm : ∀ message waiting, (arrange message waiting).Perm waiting

namespace Order

/-- The order in which registrations were made. -/
def asRegistered : Order :=
  ⟨fun _ waiting => waiting, fun _ waiting => List.Perm.refl waiting⟩

def arrangeDelivery (order : Order) (delivery : Delivery) : Delivery :=
  { delivery with waiting := order.arrange delivery.handle.message delivery.waiting }

/-- Only the innermost task is about to go on. -/
def arrangeTasks (order : Order) : List Task → List Task
  | .delivering delivery :: tasks => .delivering (order.arrangeDelivery delivery) :: tasks
  | tasks => tasks

theorem arrangeTasks_asRegistered (tasks : List Task) : asRegistered.arrangeTasks tasks = tasks := by
  cases tasks with
  | nil => rfl
  | cons task tasks => cases task <;> rfl

end Order

namespace Machine

variable (order : Order) (handlers : Handlers)

def arrange (machine : Machine) : Machine :=
  { machine with tasks := order.arrangeTasks machine.tasks }

/-- A step after which those who wait stand in the given order. -/
def stepIn (machine : Machine) : Machine :=
  (step handlers machine).arrange order

def runIn : Nat → Machine → Machine
  | 0, machine => machine
  | n + 1, machine => runIn n (stepIn order handlers machine)

theorem runIn_add (m n : Nat) (machine : Machine) :
    runIn order handlers (m + n) machine =
      runIn order handlers n (runIn order handlers m machine) := by
  induction m generalizing machine with
  | zero => rw [Nat.zero_add]; rfl
  | succ m ih => rw [Nat.succ_add]; exact ih (stepIn order handlers machine)

theorem runIn_succ (n : Nat) (machine : Machine) :
    runIn order handlers (n + 1) machine =
      stepIn order handlers (runIn order handlers n machine) :=
  runIn_add order handlers n 1 machine

/-- What every step preserves holds throughout a run. -/
theorem runIn_preserve {holds : Machine → Prop}
    (hstep : ∀ machine, holds machine → holds (stepIn order handlers machine)) (n : Nat)
    {machine : Machine} (h : holds machine) : holds (runIn order handlers n machine) := by
  induction n generalizing machine with
  | zero => exact h
  | succ n ih => exact ih (hstep machine h)

/-- A command asked for from outside is done in one step. -/
theorem stepIn_command {machine : Machine} {command : Command} {agenda : List Operation}
    (htasks : machine.tasks = []) (hagenda : machine.agenda = .command command :: agenda) :
    stepIn order handlers machine = { machine with agenda := agenda }.begin (.command command) := by
  obtain ⟨engine, inventory, kept, emissions, invocations, tasks, others, history⟩ := machine
  cases htasks
  cases hagenda
  rfl

/-- Steps as they are follow the order in which registrations were made. -/
theorem runIn_asRegistered (n : Nat) (machine : Machine) :
    runIn .asRegistered handlers n machine = steps handlers n machine := by
  induction n generalizing machine with
  | zero => rfl
  | succ n ih =>
      have hstep : stepIn .asRegistered handlers machine = step handlers machine := by
        rw [stepIn, arrange, Order.arrangeTasks_asRegistered]
      rw [runIn, hstep, steps]
      exact ih (step handlers machine)

end Machine

/-! What runs on given agendas have in common: one attachment point that faces hosts, the application that
registers handlers there, and a request that arrives there. -/

namespace Sample

def point : Point := ⟨"leaf", 1⟩

def app : App := ⟨1, "router"⟩

def registration (handler : String) : Registration := ⟨handler, none, app⟩

def arrival : Arrival :=
  ⟨point, .zero, .broadcast, none,
    .arp ⟨.request, .zero, Octets.replicate 4 0, .zero, Octets.replicate 4 1⟩, []⟩

def inventory : Inventory := .ofLists [point] [point]

end Sample

end Neighbours
