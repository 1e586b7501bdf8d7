import Neighbours.Proofs.Ledger
import Neighbours.Proofs.Reconfiguration

/-! The priorities of the calls of a run. New settings are checked before they are taken over, but those
that an engine starts with are not. So a priority out of range can come from the start, and from there
only. -/

namespace Neighbours

namespace Interception

theorem priority_of_mem_toggle {classes : List FrameClass} {before after : Bool} {priority : UInt32}
    {app : App} {call : Call} (h : call ∈ toggle classes before after priority app) :
    call.priority = priority := by
  unfold toggle at h
  split at h
  · exact absurd h List.not_mem_nil
  · obtain ⟨frameClass, -, rfl⟩ := List.mem_map.mp h
    rfl

theorem priority_of_mem_align {interception : Interception} {settings : Settings} {app : App}
    {occupied : Bool} {call : Call} (h : call ∈ (interception.align settings app occupied).1) :
    call.priority = settings.priority := by
  rcases List.mem_append.mp h with harp | hdiscovery
  · exact priority_of_mem_toggle harp
  · exact priority_of_mem_toggle hdiscovery

theorem priority_of_mem_cancelAll {priority : UInt32} {app : App} {call : Call}
    (h : call ∈ cancelAll priority app) : call.priority = priority := by
  obtain ⟨frameClass, -, rfl⟩ := List.mem_map.mp h
  rfl

end Interception

namespace Engine

variable {engine : Engine} {command : Command} {call : Call}

/-- A change of settings ends with the settings proposed. -/
theorem settings_configure (engine : Engine) (proposed : Settings) :
    (engine.configure proposed).2.settings = proposed := by
  by_cases hsame : engine.settings = proposed
  · rw [← hsame, configure_self]
  · rw [configure, if_neg hsame]
    rfl

theorem priority_of_mem_configure {proposed : Settings} (h : call ∈ (engine.configure proposed).1) :
    call.priority = engine.settings.priority ∨ call.priority = proposed.priority := by
  by_cases hsame : engine.settings = proposed
  · rw [← hsame, configure_self] at h
    exact absurd h List.not_mem_nil
  · by_cases hpriority : engine.settings.priority = proposed.priority
    · rw [configure_of_priority_eq hsame hpriority] at h
      exact Or.inr (Interception.priority_of_mem_align h)
    · rw [configure_of_priority_ne hpriority] at h
      rcases List.mem_append.mp h with hwithdrawn | hrequested
      · exact Or.inl (Interception.priority_of_mem_align hwithdrawn)
      · exact Or.inr (Interception.priority_of_mem_align hrequested)

/-- A command calls at the priority that it finds or at the one that it leaves. -/
theorem priority_of_mem_run (h : call ∈ (engine.run command).calls) :
    call.priority = engine.settings.priority ∨
      call.priority = (engine.run command).engine.settings.priority := by
  cases command with
  | insert point registration => exact Or.inl (Interception.priority_of_mem_align h)
  | erase point registration => exact Or.inl (Interception.priority_of_mem_align h)
  | eraseApp app => exact Or.inl (Interception.priority_of_mem_align h)
  | configure proposed =>
      rw [Engine.run] at h ⊢
      cases hvalid : proposed.validate with
      | error fault =>
          rw [hvalid] at h
          exact absurd h List.not_mem_nil
      | ok valid =>
          rw [hvalid] at h
          show _ ∨ call.priority = (engine.configure proposed).2.settings.priority
          rw [settings_configure]
          exact priority_of_mem_configure h
  | shutdown => exact Or.inl (Interception.priority_of_mem_cancelAll h)

/-- A command leaves the settings as they are or puts some in force whose priority is in range. -/
theorem settings_run (engine : Engine) (command : Command) :
    (engine.run command).engine.settings = engine.settings ∨
      Priority.InRange (engine.run command).engine.settings.priority := by
  cases command with
  | configure proposed =>
      rw [Engine.run, Settings.validate_eq]
      by_cases hpriority : Priority.InRange proposed.priority
      · rw [if_pos hpriority]
        show _ ∨ Priority.InRange (engine.configure proposed).2.settings.priority
        rw [settings_configure]
        exact Or.inr hpriority
      · rw [if_neg hpriority]
        exact Or.inl rfl
  | _ => exact Or.inl rfl

end Engine

/-- A priority has passed the check of new settings, or it came with the start. -/
def Priority.Admitted (starting priority : UInt32) : Prop :=
  InRange priority ∨ priority = starting

namespace Machine

/-- All priorities of a run so far were admitted: the one in force, and those of the calls. -/
structure Priced (starting : UInt32) (machine : Machine) : Prop where
  inForce : Priority.Admitted starting machine.engine.settings.priority
  issues : ∀ issue ∈ machine.issues, Priority.Admitted starting issue.call.priority

theorem priced_start (app : App) (settings : Settings) (inventory : Inventory)
    (agenda : List Operation) : (start app settings inventory agenda).Priced settings.priority :=
  ⟨Or.inr rfl, fun _ hmem => absurd hmem List.not_mem_nil⟩

theorem Priced.step {starting : UInt32} {machine : Machine} (h : machine.Priced starting)
    (handlers : Handlers) : (step handlers machine).Priced starting := by
  rcases step_cases handlers machine with hquiet | ⟨command, hcommanded⟩
  · constructor
    · rw [hquiet.engine]
      exact h.inForce
    · rw [hquiet.issues]
      exact h.issues
  · have hinForce : Priority.Admitted starting
        (machine.engine.run command).engine.settings.priority := by
      rcases machine.engine.settings_run command with hkept | hchecked
      · rw [hkept]
        exact h.inForce
      · exact Or.inl hchecked
    constructor
    · rw [hcommanded.engine]
      exact hinForce
    · intro issue hissue
      rw [hcommanded.issues] at hissue
      rcases List.mem_append.mp hissue with hearlier | hnew
      · exact h.issues issue hearlier
      · obtain ⟨call, hcall, rfl⟩ := List.mem_map.mp hnew
        rcases Engine.priority_of_mem_run hcall with hfound | hleft
        · exact hfound ▸ h.inForce
        · exact hleft ▸ hinForce

variable (order : Order) (handlers : Handlers)

theorem priced_runIn (app : App) (settings : Settings) (inventory : Inventory)
    (agenda : List Operation) (n : Nat) :
    (runIn order handlers n (start app settings inventory agenda)).Priced settings.priority :=
  runIn_preserve order handlers
    (fun _ h => ⟨(h.step handlers).inForce, (h.step handlers).issues⟩) n
    (priced_start app settings inventory agenda)

theorem admitted_of_mem_calls {app : App} {settings : Settings} {inventory : Inventory}
    {agenda : List Operation} {n : Nat} {call : Call}
    (h : call ∈ Events.calls
      (runIn order handlers n (start app settings inventory agenda)).history.reverse) :
    Priority.Admitted settings.priority call.priority := by
  rw [← map_call_issues] at h
  obtain ⟨issue, hissue, rfl⟩ := List.mem_map.mp h
  exact (priced_runIn order handlers app settings inventory agenda n).issues issue hissue

/-- The first registration requests ARP at the priority that the engine was started with. -/
theorem first_call (app : App) (settings : Settings) (inventory : Inventory) (point : Point)
    (registration : Registration) :
    ⟨.request, .arp, settings.priority, app⟩ ∈ Events.calls
      (runIn order handlers 1 (start app settings inventory
        [.command (.insert point registration)])).history.reverse := by
  have hcalls : Events.calls (runIn order handlers 1 (start app settings inventory
      [.command (.insert point registration)])).history.reverse =
      (Interception.idle.align settings app true).1 ++ [] := rfl
  rw [hcalls, List.append_nil, Interception.align_request, Settings.classes]
  split <;> exact List.mem_cons_self

/-- Every call of a run has a priority in range, or the one that the engine was started with. So all calls
of all runs have one in range exactly if the engine was started with one. -/
theorem priorities_in_range_iff (app : App) (settings : Settings) :
    (∀ (order : Order) (handlers : Handlers) (inventory : Inventory) (agenda : List Operation) (n : Nat),
        ∀ call ∈ Events.calls
            (runIn order handlers n (start app settings inventory agenda)).history.reverse,
          Priority.InRange call.priority ∨ call.priority = settings.priority) ∧
      ((∀ (order : Order) (handlers : Handlers) (inventory : Inventory) (agenda : List Operation)
            (n : Nat),
          ∀ call ∈ Events.calls
              (runIn order handlers n (start app settings inventory agenda)).history.reverse,
            Priority.InRange call.priority) ↔
        Priority.InRange settings.priority) := by
  refine ⟨?_, ?_, ?_⟩
  · intro order handlers inventory agenda n call hcall
    exact admitted_of_mem_calls order handlers hcall
  · intro hall
    exact hall .asRegistered (fun _ _ _ => ⟨[], .normal⟩) (.ofLists [] []) _ 1 _
      (first_call _ _ app settings _ ⟨"leaf", 1⟩ ⟨"handler", none, app⟩)
  · intro hstart order handlers inventory agenda n call hcall
    rcases admitted_of_mem_calls order handlers hcall with hrange | hstarting
    · exact hrange
    · rw [hstarting]
      exact hstart

end Machine

/-! An engine is started with a priority that the transport does not accept, and a handler is registered.
-/

namespace BeyondRange

def app : App := ⟨1, "app1"⟩

def settings : Settings := ⟨false, 70000, true⟩

def agenda : List Operation := [.command (.insert ⟨"of:1", 1⟩ ⟨"h", none, app⟩)]

def handlers : Handlers := fun _ _ _ => ⟨[], .normal⟩

theorem not_all_in_range :
    ¬∀ (order : Order) (handlers : Handlers) (app : App) (settings : Settings) (inventory : Inventory)
        (agenda : List Operation) (n : Nat),
      ∀ call ∈ Events.calls
          (Machine.runIn order handlers n (.start app settings inventory agenda)).history.reverse,
        1 ≤ call.priority.toNat ∧ call.priority.toNat ≤ 65535 := by
  intro hall
  have hcalls : Events.calls (Machine.runIn .asRegistered handlers 1
      (.start app settings (.ofLists [] []) agenda)).history.reverse =
      [⟨.request, .arp, 70000, app⟩] := rfl
  have hrange := hall .asRegistered handlers app settings (.ofLists [] []) agenda 1
    ⟨.request, .arp, 70000, app⟩ (hcalls ▸ List.mem_singleton_self _)
  exact absurd hrange.2 (by decide)

end BeyondRange

end Neighbours
