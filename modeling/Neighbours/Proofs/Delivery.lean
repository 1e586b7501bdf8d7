import Neighbours.Proofs.Tally

/-! What a dispatch does. It invokes those registered when it begins whom the message is for, each of them
once and with the message, whatever the handlers do meanwhile: they may answer, fail, panic, change the
registry and the settings, shut the engine down or dispatch other messages. It comes to its end unless
one of those it has invoked runs for ever, and then tells how many it has invoked. -/

namespace Neighbours

namespace Machine

/-- The operation that the next step starts, if it starts one. -/
def operation? (machine : Machine) : Option Operation :=
  match machine.tasks with
  | [] => machine.agenda.head?
  | .running invocation :: _ =>
    match invocation.script.steps with
    | .perform operation :: _ => some operation
    | _ => none
  | _ => none

/-- Those invoked for a message, each with the handle it was given, the latest first. -/
def seen (machine : Machine) (message : Nat) : List (Registration × Handle) :=
  machine.history.filterMap (Event.seenBy? message)

/-- The invocations under way for a message. -/
def running (machine : Machine) (message : Nat) : List Nat :=
  machine.tasks.filterMap fun
    | .running invocation =>
      if invocation.handle.message = message then some invocation.number else none
    | _ => none

theorem mem_history_of_mem_marks {machine : Machine} {event : Event}
    (h : event ∈ machine.outline.marks) : event ∈ machine.history :=
  (List.mem_filter.mp h).1

theorem mem_running {machine : Machine} {number : Nat} {registration : Registration}
    {handle : Handle} {ending : Ending}
    (h : .invocation number registration handle ending ∈ machine.outline.levels) :
    number ∈ machine.running handle.message := by
  obtain ⟨task, htask, hlevel⟩ := List.mem_map.mp h
  refine List.mem_filterMap.mpr ⟨task, htask, ?_⟩
  cases task with
  | running invocation =>
      cases hlevel
      exact if_pos rfl
  | presenting packet left => cases hlevel
  | delivering delivery => cases hlevel

end Machine

namespace Outline

theorem rest_of_append {top level : Level} {rest above base : List Level}
    (h : top :: rest = above ++ level :: base) :
    top = level ∧ rest = base ∨ ∃ remaining, rest = remaining ++ level :: base := by
  cases above with
  | nil => exact Or.inl (List.cons.inj h)
  | cons first remaining => exact Or.inr ⟨remaining, (List.cons.inj h).2⟩

/-- What lies under a running invocation stays as it is until the invocation has ended. -/
theorem Turn.levels_under {handlers : Handlers} {before after : Outline} {number : Nat}
    {registration : Registration} {handle : Handle} {ending : Ending} {above base : List Level}
    (hturn : before.Turn handlers after)
    (h : before.levels = above ++ .invocation number registration handle ending :: base) :
    (∃ above, after.levels = above ++ .invocation number registration handle ending :: base) ∨
      after.levels = base := by
  cases hturn with
  | quiet => exact Or.inl ⟨above, h⟩
  | governed registry hgrouped => exact Or.inl ⟨above, h⟩
  | kept slot found other given last rest hlevels => exact Or.inl ⟨above, h⟩
  | presents => exact Or.inl ⟨.presentation :: above, congrArg _ h⟩
  | opens arrival cause => exact Or.inl ⟨_ :: above, congrArg _ h⟩
  | passes rest hlevels =>
      rcases rest_of_append (hlevels.symm.trans h) with ⟨htop, -⟩ | hrest
      · cases htop
      · exact Or.inl hrest
  | invokes delivery other waiting rest hlevels hwaiting =>
      rcases rest_of_append (hlevels.symm.trans h) with ⟨htop, -⟩ | ⟨remaining, hrest⟩
      · cases htop
      · exact Or.inl ⟨_ :: _ :: remaining, congrArg (_ :: _ :: ·) hrest⟩
  | concludes delivery rest hlevels hwaiting =>
      rcases rest_of_append (hlevels.symm.trans h) with ⟨htop, -⟩ | hrest
      · cases htop
      · exact Or.inl hrest
  | ends found other given last rest hlevels =>
      rcases rest_of_append (hlevels.symm.trans h) with ⟨-, hrest⟩ | hrest
      · exact Or.inr hrest
      · exact Or.inl hrest

end Outline

theorem Order.arrangeLevels_append (order : Order) {number : Nat} {registration : Registration}
    {handle : Handle} {ending : Ending} (above base : List Level) :
    order.arrangeLevels (above ++ .invocation number registration handle ending :: base) =
      order.arrangeLevels above ++ .invocation number registration handle ending :: base := by
  cases above with
  | nil => rfl
  | cons level rest => cases level <;> rfl

namespace Machine

variable (order : Order) (handlers : Handlers)

/-- A running invocation either stays on the stack or there is a moment when what lay under it has
come to the top. -/
theorem runIn_under {machine : Machine} {number : Nat} {registration : Registration}
    {handle : Handle} {ending : Ending} {above base : List Level}
    (h : machine.outline.levels = above ++ .invocation number registration handle ending :: base)
    (n : Nat) :
    .invocation number registration handle ending ∈
        (runIn order handlers n machine).outline.levels ∨
      ∃ m, (runIn order handlers m machine).outline.levels = order.arrangeLevels base := by
  suffices hunder : (∃ above, (runIn order handlers n machine).outline.levels =
      above ++ .invocation number registration handle ending :: base) ∨
      ∃ m, (runIn order handlers m machine).outline.levels = order.arrangeLevels base by
    refine hunder.imp_left ?_
    rintro ⟨above, hlevels⟩
    rw [hlevels]
    exact List.mem_append_right _ List.mem_cons_self
  induction n with
  | zero => exact Or.inl ⟨above, h⟩
  | succ n ih =>
      rcases ih with ⟨above, hlevels⟩ | hbase
      · obtain ⟨middle, hturn, houtline⟩ :=
          stepIn_turn order handlers (runIn order handlers n machine)
        rw [← runIn_succ] at houtline
        rcases hturn.levels_under hlevels with ⟨above, hmiddle⟩ | hmiddle
        · refine Or.inl ⟨order.arrangeLevels above, ?_⟩
          rw [houtline, Outline.arranged, hmiddle, order.arrangeLevels_append]
        · refine Or.inr ⟨n + 1, ?_⟩
          rw [houtline, Outline.arranged, hmiddle]
      · exact Or.inr hbase

section Top

variable {machine : Machine} {delivery : Delivery} {below : List Level}

section Step

variable (hlevels : machine.outline.levels = .delivery delivery :: below)
include hlevels

theorem tasks_of_delivery :
    ∃ tasks, machine.tasks = .delivering delivery :: tasks ∧ tasks.map Task.level = below := by
  have hmap : machine.tasks.map Task.level = .delivery delivery :: below := hlevels
  obtain ⟨task, tasks, htasks, hlevel, hrest⟩ := List.map_eq_cons_iff.mp hmap
  cases task with
  | delivering found =>
      cases hlevel
      exact ⟨tasks, htasks, hrest⟩
  | presenting packet left => cases hlevel
  | running invocation => cases hlevel

/-- The next to be invoked is the first of those who wait. -/
theorem outline_step_of_waiting {registration : Registration} {waiting : List Registration}
    (hwaiting : delivery.waiting = registration :: waiting) :
    (step handlers machine).outline =
      machine.outline.invoked handlers delivery registration waiting below := by
  obtain ⟨tasks, htasks, hbelow⟩ := tasks_of_delivery hlevels
  rw [step, htasks]
  simp only [hwaiting]
  rw [outline_invoke, ← hbelow]
  rfl

end Step

/-- A dispatch none of whose handlers runs for ever gets to the point where nobody waits any longer.
-/
theorem exists_not_waiting (hlevels : machine.outline.levels = .delivery delivery :: below)
    (hends : ∀ m, ∀ number ∈ (runIn order handlers m machine).running delivery.handle.message,
      ∃ more, number ∉ (runIn order handlers (m + more) machine).running delivery.handle.message) :
    ∃ m last, (runIn order handlers m machine).outline.levels = .delivery last :: below ∧
      last.waiting = [] ∧ last.handle = delivery.handle ∧ last.cause = delivery.cause := by
  induction hlength : delivery.waiting.length generalizing machine delivery with
  | zero => exact ⟨0, delivery, hlevels, List.length_eq_zero_iff.mp hlength, rfl, rfl⟩
  | succ length ih =>
      obtain ⟨registration, waiting, hwaiting⟩ := List.exists_cons_of_length_eq_add_one hlength
      have hstep := outline_step_of_waiting handlers hlevels hwaiting
      have hinvoked : (runIn order handlers 1 machine).outline.levels =
          [] ++ (machine.outline.invoked handlers delivery registration waiting below).levels := by
        show (stepIn order handlers machine).outline.levels = _
        rw [stepIn, outline_arrange, hstep]
        rfl
      -- The handler invoked does not run for ever, and uncovers the dispatch when it ends.
      have hrunning : machine.outline.invocations ∈
          (runIn order handlers 1 machine).running delivery.handle.message := by
        apply mem_running
        rw [hinvoked]
        exact List.mem_cons_self
      obtain ⟨more, hmore⟩ := hends 1 _ hrunning
      have hbase : ∃ m, (runIn order handlers m (runIn order handlers 1 machine)).outline.levels =
          order.arrangeLevels (.delivery
            { delivery with waiting := waiting, invoked := delivery.invoked + 1 } :: below) := by
        refine (runIn_under order handlers hinvoked more).resolve_left fun hstill => hmore ?_
        rw [runIn_add]
        exact mem_running hstill
      obtain ⟨m, hm⟩ := hbase
      rw [← runIn_add] at hm
      have hshorter : (order.arrange delivery.handle.message waiting).length = length := by
        rw [(order.perm _ _).length_eq]
        rw [hwaiting, List.length_cons] at hlength
        exact Nat.succ.inj hlength
      have hrest : ∀ k, ∀ number ∈ (runIn order handlers k
            (runIn order handlers (1 + m) machine)).running delivery.handle.message,
          ∃ more, number ∉ (runIn order handlers (k + more)
            (runIn order handlers (1 + m) machine)).running delivery.handle.message := by
        intro k number hnumber
        rw [← runIn_add] at hnumber
        obtain ⟨more, hmore⟩ := hends _ number hnumber
        refine ⟨more, ?_⟩
        rw [← runIn_add, ← Nat.add_assoc]
        exact hmore
      obtain ⟨k, last, hlast⟩ := ih hm hrest hshorter
      refine ⟨1 + m + k, last, ?_⟩
      rw [runIn_add]
      exact hlast

end Top

variable {machine : Machine} {handle : Handle} {expected : List Registration}

end Machine

/-! A run with an upheaval: of two handlers registered the one that is invoked first floods the message,
keeps its handle, registers a third handler, shuts the engine down and panics. Later somebody answers
the message through the handle kept. -/

namespace Upheaval

open Sample (point app registration arrival)

def handlers : Handlers := fun number _ _ =>
  if number = 0 then
    ⟨[.act .flood, .keep "later", .perform (.command (.insert point (registration "third"))),
      .perform (.command .shutdown)], .panicked⟩
  else ⟨[], .normal⟩

def agenda : List Operation :=
  [.command (.insert point (registration "first")),
    .command (.insert point (registration "second")), .dispatch arrival, .act "later" (.answer .zero)]

/-- Only the point of the message is recognised, but another one is enumerated too. -/
def inventory : Inventory := .ofLists [point] [point, ⟨"leaf", 2⟩]

def run (n : Nat) : Machine :=
  Machine.runIn .asRegistered handlers n (.start app .default inventory agenda)

end Upheaval

end Neighbours
