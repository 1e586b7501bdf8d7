import Neighbours.Proofs.Commands
import Neighbours.Proofs.Order
import Neighbours.Proofs.Registry

/-! Three parts of an engine say whether frames are intercepted: the registry by holding
registrations, the settings by asking for neighbour discovery, and the interception state by what it
takes to be requested. Commands leave them in step with each other, and so every state of a run does.
-/

namespace Neighbours

namespace Interception

/-- The interception that is called for, where `occupied` tells whether there are handlers. -/
def due (settings : Settings) (occupied : Bool) : Interception :=
  ⟨occupied, occupied && settings.discovery⟩

theorem mem_requested_due_iff {settings : Settings} {occupied : Bool} {frameClass : FrameClass} :
    frameClass ∈ (due settings occupied).requested ↔
      occupied = true ∧ (frameClass.isDiscovery = true → settings.discovery = true) := by
  rw [mem_requested_iff]
  cases frameClass <;> simp [due, FrameClass.isDiscovery]

theorem requested_due_eq_nil_iff {settings : Settings} {occupied : Bool} :
    (due settings occupied).requested = [] ↔ occupied = false := by
  cases occupied <;> simp [due, requested]

end Interception

namespace Engine

/-- The parts of an engine that depend on each other agree. -/
structure Consistent (engine : Engine) : Prop where
  pruned : engine.registry.Pruned
  interception : engine.interception = .due engine.settings !engine.registry.isEmpty
  warnsDuplicates : engine.warnsDuplicates = engine.settings.warnDuplicates

theorem consistent_start (app : App) (settings : Settings) : (start app settings).Consistent :=
  ⟨Registry.pruned_empty, rfl, rfl⟩

theorem Consistent.withStats {engine : Engine} (h : engine.Consistent) (stats : Stats) :
    { engine with stats := stats }.Consistent :=
  ⟨h.pruned, h.interception, h.warnsDuplicates⟩

/-- A new registry is in step once interception is aligned with whether it holds registrations. -/
theorem Consistent.withRegistry {engine : Engine} (h : engine.Consistent) {registry : Registry}
    (hpruned : registry.Pruned) {occupied : Bool} (hoccupied : occupied = !registry.isEmpty) :
    ({ engine with registry := registry }.align occupied).2.Consistent := by
  subst hoccupied
  exact ⟨hpruned, rfl, h.warnsDuplicates⟩

/-- An engine with new settings, before interception follows them. -/
def adopt (engine : Engine) (settings : Settings) : Engine :=
  { engine with settings := settings, warnsDuplicates := settings.warnDuplicates }

theorem configure_self (engine : Engine) : engine.configure engine.settings = ([], engine) :=
  if_pos rfl

theorem configure_of_priority_eq {engine : Engine} {settings : Settings}
    (hne : engine.settings ≠ settings) (hpriority : engine.settings.priority = settings.priority) :
    engine.configure settings = (engine.adopt settings).align !engine.registry.isEmpty := by
  rw [configure, if_neg hne, if_pos hpriority]
  rfl

theorem configure_of_priority_ne {engine : Engine} {settings : Settings}
    (hpriority : engine.settings.priority ≠ settings.priority) :
    engine.configure settings =
      ((engine.align false).1 ++
          (((engine.align false).2.adopt settings).align !engine.registry.isEmpty).1,
        (((engine.align false).2.adopt settings).align !engine.registry.isEmpty).2) := by
  have hne : engine.settings ≠ settings := fun h => hpriority (congrArg Settings.priority h)
  rw [configure, if_neg hne, if_neg hpriority]
  rfl

theorem Consistent.configure {engine : Engine} (h : engine.Consistent) (settings : Settings) :
    (engine.configure settings).2.Consistent := by
  by_cases hsame : engine.settings = settings
  · rwa [← hsame, configure_self]
  · by_cases hpriority : engine.settings.priority = settings.priority
    · rw [configure_of_priority_eq hsame hpriority]
      exact ⟨h.pruned, rfl, rfl⟩
    · rw [configure_of_priority_ne hpriority]
      exact ⟨h.pruned, rfl, rfl⟩

theorem Consistent.run {engine : Engine} (h : engine.Consistent) (command : Command) :
    (engine.run command).engine.Consistent := by
  cases command with
  | insert point registration =>
      refine h.withRegistry (h.pruned.insert point registration) ?_
      rw [Registry.isEmpty_insert, Bool.not_false]
  | erase point registration => exact h.withRegistry (h.pruned.erase point registration) rfl
  | eraseApp app => exact h.withRegistry (h.pruned.eraseApp app) rfl
  | configure settings =>
      simp only [Engine.run]
      split
      · exact h
      · exact h.configure settings
  | shutdown => exact ⟨Registry.pruned_empty, rfl, h.warnsDuplicates⟩

/-- The registrations that a consistent engine holds determine what it has requested. -/
theorem Consistent.mem_requested_iff {engine : Engine} (h : engine.Consistent)
    {frameClass : FrameClass} :
    frameClass ∈ engine.interception.requested ↔
      engine.registry.pairs ≠ [] ∧
        (frameClass.isDiscovery = true → engine.settings.discovery = true) := by
  rw [h.interception, Interception.mem_requested_due_iff, Bool.not_eq_true',
    h.pruned.isEmpty_eq_false_iff]

theorem Consistent.requested_eq_nil_iff {engine : Engine} (h : engine.Consistent) :
    engine.interception.requested = [] ↔ engine.registry.pairs = [] := by
  rw [h.interception, Interception.requested_due_eq_nil_iff, Bool.not_eq_false',
    h.pruned.isEmpty_iff]

theorem app_run (engine : Engine) (command : Command) :
    (engine.run command).engine.app = engine.app := by
  cases command with
  | configure settings =>
      simp only [run, configure]
      split
      · rfl
      · split
        · rfl
        · split <;> rfl
  | _ => rfl

end Engine

namespace Machine

theorem consistent_step (handlers : Handlers) (machine : Machine) (h : machine.engine.Consistent) :
    (step handlers machine).engine.Consistent := by
  rcases step_cases handlers machine with hquiet | ⟨command, hcommanded⟩
  · rw [hquiet.engine]
    exact h.withStats _
  · rw [hcommanded.engine]
    exact h.run command

section

variable (order : Order) (handlers : Handlers)

/-- An engine works for one application throughout. -/
theorem app_runIn (n : Nat) (machine : Machine) :
    (runIn order handlers n machine).engine.app = machine.engine.app := by
  let same : Machine → Prop := fun other => other.engine.app = machine.engine.app
  have hstep : ∀ other, same other → same (stepIn order handlers other) := by
    intro other h
    rcases step_cases handlers other with hquiet | ⟨command, hcommanded⟩
    · show (step handlers other).engine.app = machine.engine.app
      rw [hquiet.engine]
      exact h
    · show (step handlers other).engine.app = machine.engine.app
      rw [hcommanded.engine, Engine.app_run]
      exact h
  exact runIn_preserve order handlers hstep n rfl

theorem consistent_runIn (app : App) (settings : Settings) (inventory : Inventory)
    (agenda : List Operation) (n : Nat) :
    (runIn order handlers n (start app settings inventory agenda)).engine.Consistent :=
  runIn_preserve order handlers (fun machine h => consistent_step handlers machine h) n
    (Engine.consistent_start app settings)

/-- In every state of every run, ARP is requested exactly while a registration is left, and the two
classes of neighbour discovery exactly while one is left and the settings ask for them. -/
theorem requested_steps (app : App) (settings : Settings) (inventory : Inventory)
    (agenda : List Operation) (n : Nat) :
    let engine := (runIn order handlers n (start app settings inventory agenda)).engine
    (engine.interception.requested = [] ↔ engine.registry.pairs = []) ∧
      (.arp ∈ engine.interception.requested ↔ engine.registry.pairs ≠ []) ∧
      (.solicitation ∈ engine.interception.requested ↔
        engine.registry.pairs ≠ [] ∧ engine.settings.discovery = true) ∧
      (.advertisement ∈ engine.interception.requested ↔
        engine.registry.pairs ≠ [] ∧ engine.settings.discovery = true) := by
  intro engine
  have h : engine.Consistent := consistent_runIn order handlers app settings inventory agenda n
  refine ⟨h.requested_eq_nil_iff, ?_, ?_, ?_⟩
  · rw [h.mem_requested_iff]
    simp [FrameClass.isDiscovery]
  · rw [h.mem_requested_iff]
    simp [FrameClass.isDiscovery]
  · rw [h.mem_requested_iff]
    simp [FrameClass.isDiscovery]

end

end Machine

end Neighbours
