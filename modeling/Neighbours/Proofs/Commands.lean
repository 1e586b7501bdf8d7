import Neighbours.Machine.Run

/-! The commands of a run. A step of a run performs one command at most, and a step that performs
none changes nothing of the engine but its counters. Whatever a command preserves therefore holds
between any two steps, also while handlers are running. -/

namespace Neighbours

/-- A command as it was carried out, with the calls it made and its answer. -/
structure Performed where
  command : Command
  calls : List Call
  answer : CommandAnswer

def Event.performed? : Event → Option Performed
  | .commanded command calls answer => some ⟨command, calls, answer⟩
  | _ => none

namespace Machine

/-- The commands performed so far, in their order. -/
def performed (machine : Machine) : List Performed :=
  machine.history.reverse.filterMap Event.performed?

theorem performed_record (machine : Machine) (event : Event) :
    (machine.record event).performed = machine.performed ++ event.performed?.toList := by
  cases h : event.performed? <;> simp [performed, record, h]

/-- Between two states no command was performed: of the engine only the counters may differ. -/
structure Quiet (before after : Machine) : Prop where
  engine : after.engine = { before.engine with stats := after.engine.stats }
  performed : after.performed = before.performed

namespace Quiet

theorem refl (machine : Machine) : Quiet machine machine :=
  ⟨rfl, rfl⟩

theorem trans {first second third : Machine} (h : Quiet first second) (h' : Quiet second third) :
    Quiet first third :=
  ⟨by rw [h'.engine, h.engine], h'.performed.trans h.performed⟩

/-- The engine and the history are all that quietness looks at. -/
theorem of_eq {before after : Machine} (hengine : after.engine = before.engine)
    (hhistory : after.history = before.history) : Quiet before after :=
  ⟨by rw [hengine], by simp only [Machine.performed, hhistory]⟩

theorem from_eq {before middle after : Machine} (h : Quiet middle after)
    (hengine : middle.engine = before.engine) (hhistory : middle.history = before.history) :
    Quiet before after :=
  (of_eq hengine hhistory).trans h

theorem record (machine : Machine) (event : Event) (h : event.performed? = none) :
    Quiet machine (machine.record event) :=
  ⟨rfl, by rw [performed_record, h, Option.toList_none, List.append_nil]⟩

theorem count (machine : Machine) (update : Stats → Stats) : Quiet machine (machine.count update) :=
  ⟨rfl, rfl⟩

theorem reply (machine : Machine) (answer : Answer) : Quiet machine (machine.reply answer) :=
  record machine _ rfl

theorem log (machine : Machine) (entry : LogEntry) : Quiet machine (machine.log entry) :=
  record machine _ rfl

theorem push (machine : Machine) (task : Task) : Quiet machine (machine.push task) :=
  of_eq rfl rfl

theorem act (machine : Machine) (handle : Handle) (action : Action) :
    Quiet machine (machine.act handle action) := by
  have hsent : Quiet machine { machine with
      engine := (machine.act handle action).engine
      emissions := (machine.act handle action).emissions } := ⟨rfl, rfl⟩
  exact hsent.trans (record _ _ rfl)

theorem dispatch (machine : Machine) (arrival : Arrival) (cause : Cause) :
    Quiet machine (machine.dispatch arrival cause) := by
  refine (count machine Stats.countDispatched).trans ?_
  exact ((record _ _ rfl).trans (push _ _)).from_eq rfl rfl

theorem takeIn (machine : Machine) (frame : Bytes) (point : Point) (cause : Cause) :
    Quiet machine (machine.takeIn frame point cause).1 := by
  refine (count machine Stats.countReceived).trans ?_
  unfold Machine.takeIn
  cases Arrival.ofFrame? frame point with
  | some arrival => exact dispatch _ arrival cause
  | none => exact count _ Stats.countIgnored

theorem present (machine : Machine) (packet : Packet) (left : Nat) :
    Quiet machine (machine.present packet left) := by
  have hshown : Quiet machine ((machine.record (.presented packet)).push (.presenting packet left)) :=
    (record machine _ rfl).trans (push _ _)
  simp only [Machine.present]
  split
  · exact hshown
  · exact hshown.trans (takeIn _ _ _ _)

theorem invoke (handlers : Handlers) (machine : Machine) (registration : Registration)
    (handle : Handle) : Quiet machine (invoke handlers machine registration handle) := by
  refine (count machine Stats.countInvoked).trans ?_
  exact ((record _ _ rfl).trans (push _ _)).from_eq rfl rfl

theorem blockPresented (machine : Machine) : Quiet machine machine.blockPresented := by
  unfold Machine.blockPresented
  split
  · exact of_eq rfl rfl
  · exact refl machine

theorem conclude (machine : Machine) (delivery : Delivery) :
    Quiet machine (machine.conclude delivery) := by
  have hlogged : Quiet machine
      (if machine.engine.warnsDuplicates &&
          decide (1 < machine.emissions.getD delivery.handle.message 0) then
        machine.log (.duplicates delivery.handle.arrival
          (machine.emissions.getD delivery.handle.message 0))
      else machine) := by
    split
    · exact log machine _
    · exact refl machine
  refine hlogged.trans ?_
  simp only [Machine.conclude]
  refine (record _ (.concluded delivery.handle delivery.invoked) rfl).trans ?_
  cases delivery.cause with
  | received => exact reply _ _
  | presented => exact blockPresented _
  | dispatched => exact reply _ _

theorem finish (machine : Machine) (invocation : Invocation) :
    Quiet machine (machine.finish invocation) := by
  refine (record machine (.ended invocation.number invocation.registration
    invocation.script.ending) rfl).trans ?_
  simp only [Machine.finish]
  cases invocation.script.ending with
  | normal => exact refl _
  | failed error => exact (count _ _).trans (log _ _)
  | panicked => exact (count _ _).trans (log _ _)

end Quiet

/-- A command changes the engine and adds three events to the history, nothing else. -/
theorem begin_command_eq (machine : Machine) (command : Command) :
    machine.begin (.command command) =
      { machine with
        engine := (machine.engine.run command).engine
        history :=
          .answered machine.runner? (.command (machine.engine.run command).answer) ::
            .commanded command (machine.engine.run command).calls (machine.engine.run command).answer ::
            .began (.command command) :: machine.history } := rfl

/-- From one state to the next a single command was performed. -/
structure Commanded (command : Command) (before after : Machine) : Prop where
  engine : after.engine = (before.engine.run command).engine
  performed : after.performed = before.performed ++
    [⟨command, (before.engine.run command).calls, (before.engine.run command).answer⟩]

theorem begin_command (machine : Machine) (command : Command) :
    Commanded command machine (machine.begin (.command command)) := by
  have hbegan := (Quiet.record machine (.began (.command command)) rfl).performed
  refine ⟨rfl, ?_⟩
  simp only [Machine.begin]
  rw [(Quiet.reply _ _).performed, performed_record]
  exact congrArg (· ++ _) hbegan

theorem Commanded.from_eq {command : Command} {before middle after : Machine}
    (h : Commanded command middle after) (hengine : middle.engine = before.engine)
    (hhistory : middle.history = before.history) : Commanded command before after := by
  have hperformed := (Quiet.of_eq hengine hhistory).performed
  exact ⟨by rw [h.engine, hengine], by rw [h.performed, hperformed, hengine]⟩

/-- Every operation but a command is quiet. -/
theorem begin_cases (machine : Machine) (operation : Operation) :
    Quiet machine (machine.begin operation) ∨
      ∃ command, Commanded command machine (machine.begin operation) := by
  have hbegan : Quiet machine (machine.record (.began operation)) := Quiet.record machine _ rfl
  cases operation with
  | command command => exact Or.inr ⟨command, begin_command machine command⟩
  | receive frame point =>
      have htaken := hbegan.trans (Quiet.takeIn _ frame point .received)
      refine Or.inl ?_
      simp only [Machine.begin]
      split
      · next h => rwa [h] at htaken
      · next h =>
          rw [h] at htaken
          exact htaken.trans (Quiet.reply _ _)
  | present packet times => exact Or.inl (hbegan.trans (Quiet.push _ _))
  | dispatch arrival => exact Or.inl (hbegan.trans (Quiet.dispatch _ _ _))
  | act slot action =>
      refine Or.inl (hbegan.trans ?_)
      simp only [Machine.begin]
      split
      · exact (Quiet.act _ _ _).trans (Quiet.reply _ _)
      · exact Quiet.reply _ _
  | replaceInventory inventory =>
      exact Or.inl (hbegan.trans (Quiet.from_eq (Quiet.reply _ _) rfl rfl))
  | readSettings => exact Or.inl (hbegan.trans (Quiet.reply _ _))
  | readRegistrations => exact Or.inl (hbegan.trans (Quiet.reply _ _))
  | readApp => exact Or.inl (hbegan.trans (Quiet.reply _ _))
  | idle => exact Or.inl (hbegan.trans (Quiet.reply _ _))

/-- A running handler performs a command, or it is quiet. -/
theorem perform_cases (machine : Machine) (handle : Handle) (step : Step) :
    Quiet machine (machine.perform handle step) ∨
      ∃ command, Commanded command machine (machine.perform handle step) := by
  cases step with
  | act action => exact Or.inl (Quiet.act _ _ _)
  | keep slot => exact Or.inl (Quiet.of_eq rfl rfl)
  | perform operation => exact begin_cases machine operation

theorem step_cases (handlers : Handlers) (machine : Machine) :
    Quiet machine (step handlers machine) ∨
      ∃ command, Commanded command machine (step handlers machine) := by
  unfold step
  split
  · split
    · exact Or.inl (Quiet.refl machine)
    · next operation agenda _ =>
        rcases begin_cases { machine with agenda := agenda } operation with h | ⟨command, h⟩
        · exact Or.inl (h.from_eq rfl rfl)
        · exact Or.inr ⟨command, h.from_eq rfl rfl⟩
  · exact Or.inl (Quiet.from_eq (Quiet.reply _ _) rfl rfl)
  · exact Or.inl (Quiet.from_eq (Quiet.present _ _ _) rfl rfl)
  · split
    · exact Or.inl (Quiet.from_eq (Quiet.conclude _ _) rfl rfl)
    · exact Or.inl (Quiet.from_eq (Quiet.invoke _ _ _ _) rfl rfl)
  · next invocation tasks _ =>
      split
      · exact Or.inl (Quiet.from_eq (Quiet.finish _ _) rfl rfl)
      · next first steps _ =>
          rcases perform_cases { machine with tasks := .running { invocation with
            script := { invocation.script with steps := steps } } :: tasks } invocation.handle first
            with h | ⟨command, h⟩
          · exact Or.inl (h.from_eq rfl rfl)
          · exact Or.inr ⟨command, h.from_eq rfl rfl⟩

end Machine

end Neighbours
