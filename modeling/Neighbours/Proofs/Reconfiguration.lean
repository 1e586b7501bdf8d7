import Neighbours.Proofs.Consistency

/-! Changes of the settings of a running engine. The engine carries a change out in one or two alignments
of what it has requested, one of them under the old settings. What these come to, from any state that a
run can reach, is spelled out here call by call. -/

namespace Neighbours

namespace Priority

/-- The priorities that the transport accepts. -/
def InRange (priority : UInt32) : Prop :=
  1 ≤ priority.toNat ∧ priority.toNat ≤ 65535

instance : DecidablePred InRange := fun priority =>
  inferInstanceAs (Decidable (1 ≤ priority.toNat ∧ priority.toNat ≤ 65535))

end Priority

namespace Settings

theorem validate_eq (settings : Settings) :
    settings.validate = if Priority.InRange settings.priority then .ok () else .error .priority :=
  rfl

/-- The classes that settings call for while there are handlers. -/
def classes (settings : Settings) : List FrameClass :=
  if settings.discovery then [.arp, .solicitation, .advertisement] else [.arp]

end Settings

namespace Interception

variable {old settings : Settings} {app : App}

/-- Nothing is called for before or after while there are no handlers. -/
theorem align_vacant :
    (due old false).align settings app false = ([], due settings false) := by
  rw [due, align, Bool.false_and, Bool.false_and, toggle_self, toggle_self]
  rfl

/-- With a handler before and after, only neighbour discovery can change. -/
theorem align_occupied :
    (due old true).align settings app true =
      (if old.discovery = settings.discovery then []
        else [.solicitation, .advertisement].map
          (⟨if settings.discovery then .request else .cancel, ·, settings.priority, app⟩),
        due settings true) := by
  rw [due, align, Bool.true_and, Bool.true_and, toggle_self, List.nil_append]
  rfl

theorem align_withdraw :
    (due settings true).align settings app false =
      ((due settings true).requested.map (⟨.cancel, ·, settings.priority, app⟩), idle) := by
  cases h : settings.discovery <;> simp [due, align, toggle, requested, idle, h]

theorem align_request :
    idle.align settings app true =
      (settings.classes.map (⟨.request, ·, settings.priority, app⟩), due settings true) := by
  cases h : settings.discovery <;>
    simp [due, align, toggle, idle, Settings.classes, FrameClass.discovery, h]

/-- The requested classes stand in a fixed order. -/
theorem requested_eq_filter (interception : Interception) :
    interception.requested =
      [.arp, .solicitation, .advertisement].filter (· ∈ interception.requested) := by
  obtain ⟨arp, discovery⟩ := interception
  cases arp <;> cases discovery <;> rfl

end Interception

namespace Engine

/-- The calls that a change of settings takes. Without handlers there is nothing to change; another
priority takes everything back and requests it anew; otherwise neighbour discovery alone can change. -/
def changeCalls (engine : Engine) (proposed : Settings) : List Call :=
  let current := engine.settings
  if engine.registry.pairs = [] then []
  else if current.priority ≠ proposed.priority then
    ([.arp, .solicitation, .advertisement].filter (· ∈ engine.interception.requested)).map
        (⟨.cancel, ·, current.priority, engine.app⟩) ++
      proposed.classes.map (⟨.request, ·, proposed.priority, engine.app⟩)
  else if current.discovery ≠ proposed.discovery then
    [.solicitation, .advertisement].map
      (⟨if proposed.discovery then .request else .cancel, ·, proposed.priority, engine.app⟩)
  else []

/-- The engine under new settings, with interception as they call for it. -/
def changed (engine : Engine) (proposed : Settings) : Engine :=
  { engine with
    settings := proposed
    warnsDuplicates := proposed.warnDuplicates
    interception := .due proposed (decide (engine.registry.pairs ≠ [])) }

theorem Consistent.adopt_settings {engine : Engine} (h : engine.Consistent) :
    engine.adopt engine.settings = engine := by
  rw [adopt, ← h.warnsDuplicates]

/-- Settings that stay as they are need no exception: nothing is to be aligned then. -/
theorem Consistent.configure_eq_align {engine : Engine} (h : engine.Consistent) {proposed : Settings}
    (hpriority : engine.settings.priority = proposed.priority) :
    engine.configure proposed = (engine.adopt proposed).align !engine.registry.isEmpty := by
  by_cases hsame : engine.settings = proposed
  · subst hsame
    have halign : engine.interception.align engine.settings engine.app (!engine.registry.isEmpty) =
        ([], engine.interception) := by
      rw [h.interception]
      exact Interception.align_align .idle engine.settings engine.app _
    rw [configure_self, h.adopt_settings, align, halign]
  · exact configure_of_priority_eq hsame hpriority

/-- A change as the engine carries it out, alignment by alignment. -/
theorem Consistent.configure_eq_aligned {engine : Engine} (h : engine.Consistent) (proposed : Settings) :
    let occupied := decide (engine.registry.pairs ≠ [])
    engine.configure proposed =
      (if engine.settings.priority = proposed.priority then
          (engine.interception.align proposed engine.app occupied).1
        else
          (engine.interception.align engine.settings engine.app false).1 ++
            (Interception.idle.align proposed engine.app occupied).1,
        engine.changed proposed) := by
  intro occupied
  have hoccupied : (!engine.registry.isEmpty) = occupied := h.pruned.not_isEmpty
  split
  · next hpriority =>
      rw [h.configure_eq_align hpriority, hoccupied]
      rfl
  · next hpriority =>
      rw [configure_of_priority_ne hpriority, hoccupied]
      rfl

theorem Consistent.configure_eq {engine : Engine} (h : engine.Consistent) (proposed : Settings) :
    engine.configure proposed = (engine.changeCalls proposed, engine.changed proposed) := by
  have hinterception : engine.interception =
      .due engine.settings (decide (engine.registry.pairs ≠ [])) := by
    rw [h.interception, h.pruned.not_isEmpty]
  rw [h.configure_eq_aligned]
  congr 1
  rw [changeCalls, ← Interception.requested_eq_filter, hinterception]
  by_cases hvacant : engine.registry.pairs = []
  · simp only [hvacant, ne_eq, not_true_eq_false, decide_false, if_true]
    rw [Interception.align_vacant, Interception.align_vacant]
    exact ite_self _
  · simp only [hvacant, ne_eq, not_false_eq_true, decide_true, if_false]
    rw [Interception.align_occupied, Interception.align_withdraw, Interception.align_request, ite_not,
      ite_not]

/-- Another priority, and neighbour discovery besides: what is requested is taken back first. -/
example :
    let app : App := ⟨1, "router"⟩
    let engine := ((start app ⟨false, 40000, true⟩).run
      (.insert ⟨"leaf", 1⟩ ⟨"handler", none, app⟩)).engine
    engine.configure ⟨true, 50000, true⟩ =
      ([⟨.cancel, .arp, 40000, app⟩, ⟨.request, .arp, 50000, app⟩,
          ⟨.request, .solicitation, 50000, app⟩, ⟨.request, .advertisement, 50000, app⟩],
        engine.changed ⟨true, 50000, true⟩) := by
  decide

theorem Consistent.run_configure {engine : Engine} (h : engine.Consistent) (proposed : Settings) :
    engine.run (.configure proposed) =
      if Priority.InRange proposed.priority then
        ⟨engine.changeCalls proposed, engine.changed proposed, .accepted⟩
      else ⟨[], engine, .refused .priority⟩ := by
  rw [Engine.run, Settings.validate_eq]
  by_cases hpriority : Priority.InRange proposed.priority
  · rw [if_pos hpriority, if_pos hpriority, h.configure_eq]
  · rw [if_neg hpriority, if_neg hpriority]

end Engine

namespace Machine

/-- In every state of every run, whether it is asked for from outside or by a running handler: a change of
settings is refused exactly if the proposed priority is out of range, and then nothing changes and no call
is made. Otherwise the proposed settings are in force, also for the warning of duplicates, registrations
and counters are as they were, and the calls are those spelled out by `changeCalls`. -/
theorem configure_exactly (order : Order) (handlers : Handlers) (app : App) (settings : Settings)
    (inventory : Inventory) (agenda : List Operation) (n : Nat) (tasks : List Task)
    (operations : List Operation) (proposed : Settings) :
    let machine : Machine :=
      { runIn order handlers n (start app settings inventory agenda) with
        tasks := tasks, agenda := operations }
    let occupied := decide (machine.engine.registry.pairs ≠ [])
    let began := Event.began (.command (.configure proposed))
    machine.engine.app = app ∧
      machine.begin (.command (.configure proposed)) =
        if Priority.InRange proposed.priority then
          { machine with
            engine := { machine.engine with
              settings := proposed
              warnsDuplicates := proposed.warnDuplicates
              interception := ⟨occupied, occupied && proposed.discovery⟩ }
            history :=
              .answered machine.runner? (.command .accepted) ::
                .commanded (.configure proposed) (machine.engine.changeCalls proposed) .accepted ::
                began :: machine.history }
        else
          { machine with
            history :=
              .answered machine.runner? (.command (.refused .priority)) ::
                .commanded (.configure proposed) [] (.refused .priority) ::
                began :: machine.history } := by
  intro machine occupied began
  have hconsistent : machine.engine.Consistent :=
    consistent_runIn order handlers app settings inventory agenda n
  refine ⟨app_runIn order handlers n _, ?_⟩
  rw [begin_command_eq, hconsistent.run_configure]
  by_cases hpriority : Priority.InRange proposed.priority
  · rw [if_pos hpriority, if_pos hpriority]
    rfl
  · rw [if_neg hpriority, if_neg hpriority]

end Machine

end Neighbours
