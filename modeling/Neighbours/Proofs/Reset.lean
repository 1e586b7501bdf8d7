import Neighbours.Proofs.Consistency
import Neighbours.Proofs.Emission
import Neighbours.Proofs.Later
import Neighbours.Proofs.Reports

/-! Shutdown as a new start. What a shutdown leaves is a new machine with a past: nothing of what was
registered and requested before is left, the settings stay, and the copy of the duplicate warning agrees
with them. The past is felt only by those who still use a handle from it. -/

namespace Neighbours

theorem Offset.runner_eq_iff (offset : Offset) {runner other : Option Nat} :
    offset.runner runner = offset.runner other ↔ runner = other := by
  apply Option.map_inj_right
  intro number given heq
  exact Nat.add_left_cancel heq

/-! Reports do not look at the numbers of messages and invocations. -/

namespace Events

variable (offset : Offset) (events : List Event)

theorem calls_offset : calls (events.map offset.event) = calls events := by
  rw [calls, List.flatMap_map]
  apply congrArg (events.flatMap ·)
  funext event
  cases event <;> rfl

theorem log_offset : log (events.map offset.event) = log events := by
  rw [log, List.filterMap_map]
  apply congrArg (events.filterMap ·)
  funext event
  cases event <;> rfl

theorem sentBy_offset (runner : Option Nat) :
    sentBy (offset.runner runner) (events.map offset.event) = sentBy runner events := by
  rw [sentBy, List.flatMap_map]
  apply congrArg (events.flatMap ·)
  funext event
  cases event with
  | acted other handle action inventory sent =>
      exact if_congr offset.runner_eq_iff rfl rfl
  | _ => rfl

theorem answersTo_offset (runner : Option Nat) :
    answersTo (offset.runner runner) (events.map offset.event) = answersTo runner events := by
  rw [answersTo, List.filterMap_map]
  apply congrArg (events.filterMap ·)
  funext event
  cases event with
  | answered other answer => exact if_congr offset.runner_eq_iff rfl rfl
  | _ => rfl

theorem invocations_offset : invocations (events.map offset.event) = invocations events := by
  have hsent : ∀ number, sentBy (some (offset.invocations + number)) (events.map offset.event) =
      sentBy (some number) events := fun number => sentBy_offset offset events (some number)
  have hanswers : ∀ number, answersTo (some (offset.invocations + number))
      (events.map offset.event) = answersTo (some number) events :=
    fun number => answersTo_offset offset events (some number)
  unfold invocations
  rw [List.filterMap_map]
  apply congrArg (events.filterMap ·)
  funext event
  cases event with
  | invoked number registration handle =>
      show some (InvocationReport.mk _ _ _ _) = _
      rw [hsent, hanswers]
      rfl
  | _ => rfl

end Events

namespace Machine

variable (order : Order) (handlers : Handlers)

section Shutdown

variable {before : Machine} {operations : List Operation}

/-- What a shutdown leaves is a new machine with the past behind it. -/
theorem stepIn_shutdown_eq_after (hconsistent : before.engine.Consistent)
    (htasks : before.tasks = []) (hagenda : before.agenda = .command .shutdown :: operations) :
    stepIn order handlers before =
      (start before.engine.app before.engine.settings before.inventory operations).after
        (stepIn order handlers before) := by
  rw [stepIn_command order handlers htasks hagenda]
  obtain ⟨⟨app, settings, warnsDuplicates, interception, registry, stats⟩, inventory, kept, emissions,
    invocations, tasks, agenda, history⟩ := before
  have hwarns : warnsDuplicates = settings.warnDuplicates := hconsistent.warnsDuplicates
  cases htasks
  subst hwarns
  simp only [begin, after, start, Engine.run, Engine.start, Registry.clear, record, reply,
    Stats.add_zero, List.map_nil, List.nil_append, List.append_nil, Nat.add_zero]

/-- The handles kept in a run stand for messages that have been dispatched. -/
theorem message_lt_of_kept {app : App} {settings : Settings} {inventory : Inventory}
    {agenda : List Operation} {n : Nat} {slot : String} {handle : Handle}
    (h : (runIn order handlers n (start app settings inventory agenda)).kept.lookup slot =
      some handle) :
    handle.message < (runIn order handlers n (start app settings inventory agenda)).emissions.length := by
  have hnumbered := numbered_start app settings inventory agenda
  have htraced := traced_runIn order handlers n hnumbered (traced_start app settings inventory agenda)
  obtain ⟨number, registration, hinvoked⟩ := htraced.kept slot handle (mem_kept_of_lookup h)
  exact (numbered_runIn order handlers n hnumbered).dispatched_lt handle
    (htraced.invoked _ _ _ hinvoked)

/-- Shutdown is a reset. Wherever a run has come to when no dispatch is in progress, shutdown leaves the
settings as they are and cancels each class of frames once. What follows is, step by step, what follows
on a new machine with these settings, as long as nobody acts on a message from before: the same events,
but that messages and invocations have other numbers, hence the same calls to the transport, handlers
invoked, frames sent, answers and log, and the same engine, but that the counters go on from what they
were. -/
theorem shutdown_resets (app : App) (settings : Settings) (inventory : Inventory)
    (agenda : List Operation) (n : Nat)
    (hbefore : before = runIn order handlers n (start app settings inventory agenda))
    (htasks : before.tasks = []) (hagenda : before.agenda = .command .shutdown :: operations) :
    let reset := stepIn order handlers before
    let priority := before.engine.settings.priority
    reset.engine.settings = before.engine.settings ∧
      reset.performed = before.performed ++ [⟨.shutdown, [⟨.cancel, .arp, priority, app⟩,
        ⟨.cancel, .solicitation, priority, app⟩, ⟨.cancel, .advertisement, priority, app⟩], .done⟩] ∧
      ∀ m, (∀ k < m, ∀ handle action,
          (runIn order handlers k reset).acting? = some (handle, action) →
            before.emissions.length ≤ handle.message) →
        let offset := before.offset
        let later := runIn order handlers m reset
        let fresh := runIn (offset.order order) (offset.handlers handlers) m
          (start app before.engine.settings before.inventory operations)
        let since := fresh.history.map offset.event
        later.engine = { fresh.engine with stats := reset.engine.stats + fresh.engine.stats } ∧
          later.inventory = fresh.inventory ∧
          later.agenda = fresh.agenda ∧
          later.tasks.length = fresh.tasks.length ∧
          later.history = since ++ reset.history ∧
          Events.calls since.reverse = Events.calls fresh.history.reverse ∧
          Events.invocations since.reverse = Events.invocations fresh.history.reverse ∧
          Events.log since.reverse = Events.log fresh.history.reverse ∧
          ∀ runner, Events.sentBy (offset.runner runner) since.reverse =
              Events.sentBy runner fresh.history.reverse ∧
            Events.answersTo (offset.runner runner) since.reverse =
              Events.answersTo runner fresh.history.reverse := by
  intro reset priority
  have happ : before.engine.app = app := by
    rw [hbefore, app_runIn]
    rfl
  have hconsistent : before.engine.Consistent :=
    hbefore ▸ consistent_runIn order handlers app settings inventory agenda n
  have hstep : reset = { before with agenda := operations }.begin (.command .shutdown) :=
    stepIn_command order handlers htasks hagenda
  have hcommanded := begin_command { before with agenda := operations } .shutdown
  rw [← hstep] at hcommanded
  refine ⟨?_, ?_, ?_⟩
  · rw [hcommanded.engine]
    rfl
  · rw [hcommanded.performed, ← happ]
    rfl
  · intro m hown offset later fresh since
    -- The machine after the shutdown is its own past.
    have hafter : reset =
        (start app before.engine.settings before.inventory operations).after reset :=
      happ ▸ stepIn_shutdown_eq_after order handlers hconsistent htasks hagenda
    have hemissions : reset.emissions = before.emissions := by
      rw [hstep]
      rfl
    have hoffset : reset.offset = offset := by
      rw [hstep]
      rfl
    have hkept : ∀ slot handle, reset.kept.lookup slot = some handle →
        handle.message < reset.emissions.length := by
      rw [hstep, hbefore]
      exact fun slot handle => message_lt_of_kept order handlers
    rw [hafter, ← hemissions] at hown
    have hlater : later = fresh.after reset :=
      calc
        later = runIn order handlers m
            ((start app before.engine.settings before.inventory operations).after reset) :=
          congrArg (runIn order handlers m) hafter
        _ = fresh.after reset := by rw [runIn_after order handlers hkept hown, hoffset]
    have hsince : later.history = since ++ reset.history :=
      calc
        later.history = fresh.history.map reset.offset.event ++ reset.history :=
          congrArg Machine.history hlater
        _ = since ++ reset.history := by rw [hoffset]
    have hreverse : since.reverse = fresh.history.reverse.map offset.event := List.map_reverse.symm
    rw [hreverse, Events.calls_offset, Events.invocations_offset, Events.log_offset]
    refine ⟨?_, ?_, ?_, ?_, hsince, rfl, rfl, rfl, fun runner => ⟨?_, ?_⟩⟩
    · rw [hlater]
      rfl
    · rw [hlater]
      rfl
    · rw [hlater]
      rfl
    · rw [hlater]
      exact List.length_map ..
    · exact Events.sentBy_offset offset _ runner
    · exact Events.answersTo_offset offset _ runner

end Shutdown

end Machine

/-! A handler floods the first message and keeps its handle, then the engine is shut down. Another
handler is registered after that; it answers its message, and so does somebody else through the handle
that it keeps. -/

namespace Renewal

open Sample

def handlers : Handlers := fun number _ _ =>
  if number = 0 then ⟨[.act .flood, .keep "old"], .normal⟩
  else ⟨[.act (.answer .zero), .keep "new"], .normal⟩

def operations : List Operation :=
  [.command (.insert point (registration "second")), .dispatch arrival, .act "new" (.answer .zero)]

def run (n : Nat) : Machine :=
  Machine.runIn .asRegistered handlers n (.start app .default inventory
    (.command (.insert point (registration "first")) :: .dispatch arrival :: .command .shutdown ::
      operations))

def later (n : Nat) : Machine :=
  Machine.runIn .asRegistered handlers n (Machine.stepIn .asRegistered handlers (run 7))

def fresh (n : Nat) : Machine :=
  Machine.runIn ((run 7).offset.order .asRegistered) ((run 7).offset.handlers handlers) n
    (.start app .default inventory operations)

theorem resets_renewal :
    (run 7).tasks = [] ∧ (run 7).agenda = .command .shutdown :: operations ∧
      (∀ k < 8, ∀ handle action, (later k).acting? = some (handle, action) →
        (run 7).emissions.length ≤ handle.message) ∧
      (later 0).engine.settings = (run 7).engine.settings ∧
      (later 8).engine =
        { (fresh 8).engine with stats := (later 0).engine.stats + (fresh 8).engine.stats } ∧
      (later 8).history = (fresh 8).history.map (run 7).offset.event ++ (later 0).history ∧
      (fresh 8).engine.stats.emitted = 2 := by
  have hown : ∀ k < 8, ∀ handle action, (later k).acting? = some (handle, action) →
      (run 7).emissions.length ≤ handle.message := by
    have hall : ∀ k < 8, ((later k).acting?.all fun acting => 1 ≤ acting.1.message) = true := by
      decide
    intro k hk handle action hacting
    have hone := hall k hk
    rw [hacting] at hone
    exact of_decide_eq_true hone
  obtain ⟨hsettings, -, hreset⟩ := Machine.shutdown_resets .asRegistered handlers app .default
    inventory _ 7 (rfl : run 7 = _) rfl rfl
  obtain ⟨hengine, -, -, -, hhistory, -⟩ := hreset 8 hown
  exact ⟨rfl, rfl, hown, hsettings, hengine, hhistory, rfl⟩

end Renewal

end Neighbours
