import Neighbours.Proofs.Consistency
import Neighbours.Report

/-! The calls of a run as entries in a ledger. The transport keeps what is requested until it is
cancelled with the same class, priority and application, so an entry that the engine forgets would
stay for ever, with nothing in the engine to show it. Replaying the calls of a run shows that none is
forgotten: the outstanding entries are those that the engine reports, at the priority in force. -/

namespace Neighbours

/-- A request that the transport keeps. -/
structure Entry where
  frameClass : FrameClass
  priority : UInt32
  app : App
deriving DecidableEq

def Call.entry (call : Call) : Entry :=
  ⟨call.frameClass, call.priority, call.app⟩

/-- A call together with the command that made it. -/
structure Issue where
  command : Command
  call : Call

/-- The outstanding entries, the earliest first. -/
abbrev Ledger := List Entry

namespace Ledger

def post (ledger : Ledger) (call : Call) : Ledger :=
  match call.verb with
  | .request => ledger ++ [call.entry]
  | .cancel => ledger.erase call.entry

def replay (calls : List Call) : Ledger :=
  calls.foldl post []

/-- A request finds no entry of its class, and a cancellation finds the entry that it removes. The
shutdown alone cancels without looking. -/
def Justified (ledger : Ledger) (issue : Issue) : Prop :=
  match issue.call.verb with
  | .request => ∀ entry ∈ ledger, entry.frameClass ≠ issue.call.frameClass
  | .cancel => issue.command = .shutdown ∨ issue.call.entry ∈ ledger

def Orderly : Ledger → List Issue → Prop
  | _, [] => True
  | ledger, issue :: rest => Justified ledger issue ∧ Orderly (ledger.post issue.call) rest

theorem orderly_append {ledger : Ledger} {issues more : List Issue} :
    Orderly ledger (issues ++ more) ↔
      Orderly ledger issues ∧ Orderly ((issues.map Issue.call).foldl post ledger) more := by
  induction issues generalizing ledger with
  | nil => simp [Orderly]
  | cons issue rest ih => simp [Orderly, ih, and_assoc]

/-- Every call of an orderly sequence is justified by the calls before it. -/
theorem Orderly.justified {before after : List Issue} {issue : Issue}
    (h : Orderly [] (before ++ issue :: after)) :
    Justified (replay (before.map Issue.call)) issue :=
  (orderly_append.mp h).2.1

/-- The calls of a command are orderly and lead from one ledger to another. -/
structure Leads (command : Command) (calls : List Call) (before after : Ledger) : Prop where
  orderly : Orderly before (calls.map (⟨command, ·⟩))
  result : calls.foldl post before = after

theorem Leads.nil (command : Command) (ledger : Ledger) : Leads command [] ledger ledger :=
  ⟨trivial, rfl⟩

theorem Leads.cons {command : Command} {call : Call} {calls : List Call} {before after : Ledger}
    (hcall : Justified before ⟨command, call⟩) (h : Leads command calls (before.post call) after) :
    Leads command (call :: calls) before after :=
  ⟨⟨hcall, h.orderly⟩, h.result⟩

theorem Leads.append {command : Command} {calls more : List Call} {first second third : Ledger}
    (h : Leads command calls first second) (h' : Leads command more second third) :
    Leads command (calls ++ more) first third := by
  constructor
  · rw [List.map_append, orderly_append, List.map_map]
    refine ⟨h.orderly, ?_⟩
    have hcalls : calls.map (Issue.call ∘ (⟨command, ·⟩)) = calls := List.map_id calls
    rw [hcalls, h.result]
    exact h'.orderly
  · rw [List.foldl_append, h.result, h'.result]

end Ledger

namespace Interception

variable (command : Command) (priority : UInt32) (app : App)

/-- The entries of what is requested. -/
def entries (interception : Interception) : Ledger :=
  interception.requested.map (⟨·, priority, app⟩)

/-- The entries of some classes that are requested together. -/
def entriesOf (classes : List FrameClass) (requested : Bool) : Ledger :=
  if requested then classes.map (⟨·, priority, app⟩) else []

theorem entries_eq (interception : Interception) :
    entries priority app interception =
      entriesOf priority app [.arp] interception.arp ++
        entriesOf priority app FrameClass.discovery interception.discovery := by
  rw [entries, requested, List.map_append]
  cases interception.arp <;> cases interception.discovery <;> rfl

/-- Classes are requested one by one, each at the end of the ledger. -/
theorem leads_request {classes : List FrameClass} (hnodup : classes.Nodup) {ledger : Ledger}
    (hfresh : ∀ entry ∈ ledger, entry.frameClass ∉ classes) :
    Ledger.Leads command (classes.map (⟨.request, ·, priority, app⟩)) ledger
      (ledger ++ classes.map (⟨·, priority, app⟩)) := by
  induction classes generalizing ledger with
  | nil =>
      rw [List.map_nil, List.map_nil, List.append_nil]
      exact Ledger.Leads.nil command ledger
  | cons first rest ih =>
      obtain ⟨hfirst, hrest⟩ := List.nodup_cons.mp hnodup
      have htail : ∀ entry ∈ ledger ++ [⟨first, priority, app⟩], entry.frameClass ∉ rest := by
        intro entry hentry
        rcases List.mem_append.mp hentry with hmem | hmem
        · exact fun h => hfresh entry hmem (List.mem_cons_of_mem first h)
        · rw [List.mem_singleton.mp hmem]
          exact hfirst
      refine Ledger.Leads.cons (fun entry hentry h => ?_) ?_
      · exact hfresh entry hentry (h ▸ List.mem_cons_self)
      · rw [List.map_cons, ← List.singleton_append, ← List.append_assoc]
        exact ih hrest htail

/-- Classes are cancelled one by one where they stand in the ledger. -/
theorem leads_cancel {classes : List FrameClass} {front : Ledger}
    (hfront : ∀ entry ∈ front, entry.frameClass ∉ classes) (back : Ledger) :
    Ledger.Leads command (classes.map (⟨.cancel, ·, priority, app⟩))
      (front ++ (classes.map (⟨·, priority, app⟩) ++ back)) (front ++ back) := by
  induction classes with
  | nil => exact Ledger.Leads.nil command _
  | cons first rest ih =>
      have hnot : Entry.mk first priority app ∉ front := fun h => hfront _ h List.mem_cons_self
      have hstruck : Ledger.post
          (front ++ ((first :: rest).map (Entry.mk · priority app) ++ back))
          ⟨.cancel, first, priority, app⟩ = front ++ (rest.map (⟨·, priority, app⟩) ++ back) := by
        rw [Ledger.post, Call.entry, List.erase_append_right _ hnot, List.map_cons,
          List.cons_append, List.erase_cons_head]
      refine Ledger.Leads.cons (Or.inr ?_) ?_
      · exact List.mem_append_right _ (List.mem_append_left _ List.mem_cons_self)
      · rw [hstruck]
        exact ih fun entry hentry h => hfront entry hentry (List.mem_cons_of_mem first h)

/-- Toggling some classes writes or strikes their entries and leaves the others where they are. What
is requested comes last, so nothing may follow the place of classes that are off. -/
theorem leads_toggle {classes : List FrameClass} (hnodup : classes.Nodup) (front back : Ledger)
    (hfront : ∀ entry ∈ front, entry.frameClass ∉ classes) (before after : Bool)
    (hback : before = false → back = []) :
    Ledger.Leads command (toggle classes before after priority app)
      (front ++ (entriesOf priority app classes before ++ back))
      (front ++ (entriesOf priority app classes after ++ back)) := by
  cases before with
  | false =>
      obtain rfl := hback rfl
      cases after with
      | false =>
          rw [toggle_self]
          exact Ledger.Leads.nil command _
      | true =>
          have hrequested := leads_request command priority app hnodup hfront
          simp only [entriesOf, Bool.false_eq_true, if_true, if_false, List.append_nil]
          exact hrequested
  | true =>
      cases after with
      | false => exact leads_cancel command priority app hfront back
      | true =>
          rw [toggle_self]
          exact Ledger.Leads.nil command _

/-- ARP is brought in line first, in front of the entries of neighbour discovery, and then neighbour
discovery behind what is left of ARP. -/
theorem leads_align (old settings : Settings) (occupied after : Bool) :
    Ledger.Leads command ((due old occupied).align settings app after).1
      (entries settings.priority app (due old occupied))
      (entries settings.priority app (due settings after)) := by
  rw [entries_eq, entries_eq]
  have harp : Ledger.Leads command (toggle [.arp] occupied after settings.priority app)
      (entriesOf settings.priority app [.arp] occupied ++
        entriesOf settings.priority app FrameClass.discovery (occupied && old.discovery))
      (entriesOf settings.priority app [.arp] after ++
        entriesOf settings.priority app FrameClass.discovery (occupied && old.discovery)) := by
    apply leads_toggle command settings.priority app (by decide) []
    · intro entry hentry
      exact absurd hentry List.not_mem_nil
    · intro hvacant
      rw [hvacant]
      rfl
  have hdiscovery : Ledger.Leads command
      (toggle FrameClass.discovery (occupied && old.discovery) (after && settings.discovery)
        settings.priority app)
      (entriesOf settings.priority app [.arp] after ++
        (entriesOf settings.priority app FrameClass.discovery (occupied && old.discovery) ++ []))
      (entriesOf settings.priority app [.arp] after ++
        (entriesOf settings.priority app FrameClass.discovery (after && settings.discovery) ++
          [])) := by
    apply leads_toggle command settings.priority app (by decide)
    · intro entry hentry
      cases after with
      | false => exact absurd hentry List.not_mem_nil
      | true =>
          have hapart : FrameClass.arp ∉ FrameClass.discovery := by decide
          rw [List.mem_singleton.mp hentry]
          exact hapart
    · intro _
      rfl
  rw [List.append_nil, List.append_nil] at hdiscovery
  exact harp.append hdiscovery

theorem leads_cancelAll (settings : Settings) (occupied : Bool) :
    Ledger.Leads .shutdown (cancelAll priority app) (entries priority app (due settings occupied))
      [] := by
  obtain ⟨discovery, _, _⟩ := settings
  cases occupied <;> cases discovery <;> constructor <;>
    simp [cancelAll, entries, due, requested, FrameClass.all, FrameClass.discovery, Ledger.Orderly,
      Ledger.Justified, Ledger.post, Call.entry]

/-- Interception that is called for already takes no calls. -/
theorem align_due (settings : Settings) (occupied : Bool) :
    ((due settings occupied).align settings app occupied).1 = [] := by
  simp [align, due]

end Interception

namespace Engine

/-- The entries that the engine takes to be outstanding. -/
def outstanding (engine : Engine) : Ledger :=
  Interception.entries engine.settings.priority engine.app engine.interception

theorem leads_align (engine : Engine) {old : Settings} {occupied : Bool}
    (h : engine.interception = .due old occupied) (command : Command) (after : Bool) :
    Ledger.Leads command (engine.align after).1 engine.outstanding
      (engine.align after).2.outstanding := by
  have hleads := Interception.leads_align command engine.app old engine.settings occupied after
  rw [← h] at hleads
  exact hleads

/-- What is outstanding at the old priority is withdrawn before anything is requested at the new one.
-/
theorem Consistent.leads_configure {engine : Engine} (h : engine.Consistent) (settings : Settings)
    (command : Command) :
    Ledger.Leads command (engine.configure settings).1 engine.outstanding
      (engine.configure settings).2.outstanding := by
  by_cases hsame : engine.settings = settings
  · rw [← hsame, configure_self]
    exact Ledger.Leads.nil command _
  · by_cases hpriority : engine.settings.priority = settings.priority
    · rw [configure_of_priority_eq hsame hpriority]
      have hkept : engine.outstanding = (engine.adopt settings).outstanding :=
        congrArg (Interception.entries · engine.app engine.interception) hpriority
      rw [hkept]
      exact leads_align (engine.adopt settings) h.interception command _
    · rw [configure_of_priority_ne hpriority]
      have hwithdrawn := leads_align engine h.interception command false
      have hidle : ((engine.align false).2.adopt settings).interception =
          .due engine.settings false := rfl
      have hrequested := leads_align _ hidle command !engine.registry.isEmpty
      exact hwithdrawn.append hrequested

/-- The calls of every command are orderly and leave what the engine then takes to be outstanding. -/
theorem Consistent.leads_run {engine : Engine} (h : engine.Consistent) (command : Command) :
    Ledger.Leads command (engine.run command).calls engine.outstanding
      (engine.run command).engine.outstanding := by
  cases command with
  | insert point registration =>
      exact leads_align { engine with
        registry := (engine.registry.insert point registration).2 } h.interception _ _
  | erase point registration =>
      exact leads_align { engine with
        registry := (engine.registry.erase point registration).2 } h.interception _ _
  | eraseApp app =>
      exact leads_align { engine with
        registry := (engine.registry.eraseApp app).2 } h.interception _ _
  | configure settings =>
      simp only [Engine.run]
      split
      · exact Ledger.Leads.nil _ _
      · exact h.leads_configure settings _
  | shutdown =>
      have hleads := Interception.leads_cancelAll engine.settings.priority engine.app
        engine.settings !engine.registry.isEmpty
      rw [← h.interception] at hleads
      exact hleads

end Engine

/-- Registering and unregistering, one by one or by application. -/
def Command.editsRegistry : Command → Bool
  | .insert _ _ | .erase _ _ | .eraseApp _ => true
  | .configure _ | .shutdown => false

/-- An edit that leaves the registry as empty or as occupied as it was makes no call. -/
theorem Engine.Consistent.calls_eq_nil {engine : Engine} (h : engine.Consistent) {command : Command}
    (hedits : command.editsRegistry = true)
    (hsame : (engine.run command).engine.registry.isEmpty = engine.registry.isEmpty) :
    (engine.run command).calls = [] := by
  have halign : ∀ occupied, occupied = !engine.registry.isEmpty →
      (engine.interception.align engine.settings engine.app occupied).1 = [] := by
    rintro occupied rfl
    rw [h.interception]
    exact Interception.align_due engine.app engine.settings _
  cases command with
  | insert point registration =>
      refine halign true ?_
      rw [← hsame]
      exact congrArg not (engine.registry.isEmpty_insert point registration).symm
  | erase point registration => exact halign _ (congrArg not hsame)
  | eraseApp app => exact halign _ (congrArg not hsame)
  | configure settings => cases hedits
  | shutdown => cases hedits

namespace Machine

/-- The calls of a run so far, in their order. -/
def issues (machine : Machine) : List Issue :=
  machine.performed.flatMap fun performed => performed.calls.map (⟨performed.command, ·⟩)

/-- The calls are those that the reports on the run show. -/
theorem map_call_issues (machine : Machine) :
    machine.issues.map Issue.call = Events.calls machine.history.reverse := by
  unfold issues performed Events.calls
  induction machine.history.reverse with
  | nil => rfl
  | cons event events ih =>
      cases event with
      | commanded command calls answer =>
          have hcalls : (calls.map (Issue.mk command)).map Issue.call = calls := by
            rw [List.map_map]
            exact List.map_id calls
          change (calls.map (Issue.mk command) ++ _).map Issue.call = calls ++ _
          rw [List.map_append, hcalls]
          exact congrArg (calls ++ ·) ih
      | _ => exact ih

theorem Quiet.issues {before after : Machine} (h : Quiet before after) :
    after.issues = before.issues := by
  rw [Machine.issues, h.performed, Machine.issues]

theorem Commanded.issues {command : Command} {before after : Machine}
    (h : Commanded command before after) :
    after.issues = before.issues ++ (before.engine.run command).calls.map (⟨command, ·⟩) := by
  rw [Machine.issues, h.performed, List.flatMap_append, List.flatMap_singleton]
  rfl

/-- The calls made so far are orderly, and the engine knows what they left outstanding. -/
structure Balanced (machine : Machine) : Prop where
  consistent : machine.engine.Consistent
  orderly : Ledger.Orderly [] machine.issues
  ledger : Ledger.replay (machine.issues.map Issue.call) = machine.engine.outstanding

theorem balanced_start (app : App) (settings : Settings) (inventory : Inventory)
    (agenda : List Operation) : (start app settings inventory agenda).Balanced :=
  ⟨Engine.consistent_start app settings, trivial, rfl⟩

theorem Balanced.step {machine : Machine} (h : machine.Balanced) (handlers : Handlers) :
    (step handlers machine).Balanced := by
  have hconsistent := consistent_step handlers machine h.consistent
  rcases step_cases handlers machine with hquiet | ⟨command, hcommanded⟩
  · refine ⟨hconsistent, ?_, ?_⟩
    · rw [hquiet.issues]
      exact h.orderly
    · rw [hquiet.issues, h.ledger, hquiet.engine]
      rfl
  · have hleads := h.consistent.leads_run command
    rw [← h.ledger, ← hcommanded.engine] at hleads
    refine ⟨hconsistent, ?_, ?_⟩
    · rw [hcommanded.issues]
      exact Ledger.orderly_append.mpr ⟨h.orderly, hleads.orderly⟩
    · rw [hcommanded.issues, List.map_append, List.map_map, Ledger.replay, List.foldl_append]
      exact (congrArg (List.foldl _ _) (List.map_id _)).trans hleads.result

/-- The order of those who wait leaves the calls and the engine as they are. -/
theorem Balanced.arrange {machine : Machine} (h : machine.Balanced) (order : Order) :
    (machine.arrange order).Balanced :=
  ⟨h.consistent, h.orderly, h.ledger⟩

theorem balanced_runIn (order : Order) (handlers : Handlers) (app : App) (settings : Settings)
    (inventory : Inventory) (agenda : List Operation) (n : Nat) :
    (runIn order handlers n (start app settings inventory agenda)).Balanced :=
  runIn_preserve order handlers (fun _ h => (h.step handlers).arrange order) n
    (balanced_start app settings inventory agenda)

/-- A step in which registering or unregistering makes a call turns an empty registry into one that
is not, or the other way round. -/
theorem edits_step (handlers : Handlers) {machine : Machine} (h : machine.engine.Consistent) :
    ∃ issued, (step handlers machine).issues = machine.issues ++ issued ∧
      ∀ issue ∈ issued, issue.command.editsRegistry = true →
        (machine.engine.registry.pairs = [] ↔
          (step handlers machine).engine.registry.pairs ≠ []) := by
  have hnext := consistent_step handlers machine h
  rcases step_cases handlers machine with hquiet | ⟨command, hcommanded⟩
  · exact ⟨[], by rw [hquiet.issues, List.append_nil], fun _ hmem => absurd hmem List.not_mem_nil⟩
  · refine ⟨_, hcommanded.issues, ?_⟩
    intro issue hmem hedits
    obtain ⟨call, hcall, rfl⟩ := List.mem_map.mp hmem
    rw [← h.pruned.isEmpty_iff, ← hnext.pruned.isEmpty_eq_false_iff]
    have hchanged : (step handlers machine).engine.registry.isEmpty ≠
        machine.engine.registry.isEmpty := by
      rw [hcommanded.engine]
      intro hsame
      rw [h.calls_eq_nil hedits hsame] at hcall
      exact absurd hcall List.not_mem_nil
    cases hbefore : machine.engine.registry.isEmpty <;>
      cases hafter : (step handlers machine).engine.registry.isEmpty <;> simp_all

/-- In every state of every run: a call that requests finds no entry of its class outstanding, a call
that cancels, except in a shutdown, removes an outstanding entry, the outstanding entries are those
of the classes requested, at the priority in force, and registering and unregistering make calls only
when the registry becomes empty or ceases to be. -/
theorem ledger_steps (order : Order) (handlers : Handlers) (app : App) (settings : Settings)
    (inventory : Inventory) (agenda : List Operation) (n : Nat) :
    let machine := runIn order handlers n (start app settings inventory agenda)
    let next := stepIn order handlers machine
    machine.issues.map Issue.call = Events.calls machine.history.reverse ∧
      (∀ before issue after, machine.issues = before ++ issue :: after →
        (issue.call.verb = .request →
          ∀ entry ∈ Ledger.replay (before.map Issue.call),
            entry.frameClass ≠ issue.call.frameClass) ∧
        (issue.call.verb = .cancel → issue.command ≠ .shutdown →
          issue.call.entry ∈ Ledger.replay (before.map Issue.call))) ∧
      Ledger.replay (machine.issues.map Issue.call) =
        machine.engine.interception.requested.map
          (⟨·, machine.engine.settings.priority, machine.engine.app⟩) ∧
      ∃ issued, next.issues = machine.issues ++ issued ∧
        ∀ issue ∈ issued, issue.command.editsRegistry = true →
          (machine.engine.registry.pairs = [] ↔ next.engine.registry.pairs ≠ []) := by
  intro machine next
  have h : machine.Balanced := balanced_runIn order handlers app settings inventory agenda n
  refine ⟨machine.map_call_issues, ?_, h.ledger, edits_step handlers h.consistent⟩
  intro before issue after hsplit
  have horderly := h.orderly
  rw [hsplit] at horderly
  have hjustified := horderly.justified
  unfold Ledger.Justified at hjustified
  constructor
  · intro hverb
    rwa [hverb] at hjustified
  · intro hverb hshutdown
    rw [hverb] at hjustified
    exact hjustified.resolve_left hshutdown

end Machine

end Neighbours
