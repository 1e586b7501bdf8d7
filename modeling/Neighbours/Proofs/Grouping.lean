import Mathlib.Data.Finset.Card
import Mathlib.Data.Finset.SDiff
import Mathlib.Data.List.Nodup
import Neighbours.Proofs.Registry

/-! The registry as a set. What it stands for is a finite set of pairs of an attachment point and a
registration; its entries are that set grouped by point. Every edit does to the set what its name
says, and answers with what became of the set. -/

namespace Neighbours

namespace Registry

/-- Every attachment point has one entry at most, and every entry holds registrations, each once. -/
structure Grouped (registry : Registry) : Prop where
  pruned : registry.Pruned
  points : (registry.groups.map Prod.fst).Nodup
  registrations : ∀ entry ∈ registry.groups, entry.2.Nodup

theorem grouped_empty : empty.Grouped :=
  ⟨pruned_empty, List.nodup_nil, fun _ hentry => absurd hentry List.not_mem_nil⟩

theorem mem_pairs_iff {registry : Registry} {point : Point} {registration : Registration} :
    (point, registration) ∈ registry.pairs ↔
      ∃ registrations, (point, registrations) ∈ registry.groups ∧ registration ∈ registrations := by
  rw [pairs, List.mem_flatMap]
  constructor
  · rintro ⟨⟨other, registrations⟩, hentry, hpair⟩
    obtain ⟨found, hfound, heq⟩ := List.mem_map.mp hpair
    obtain ⟨rfl, rfl⟩ := Prod.mk.inj heq
    exact ⟨registrations, hentry, hfound⟩
  · rintro ⟨registrations, hentry, hmem⟩
    exact ⟨_, hentry, List.mem_map_of_mem hmem⟩

namespace Grouped

variable {registry : Registry} (h : registry.Grouped)
include h

/-- Since no other entry has its point, an entry is found. -/
theorem lookup_eq_some_iff {point : Point} {registrations : List Registration} :
    registry.groups.lookup point = some registrations ↔
      (point, registrations) ∈ registry.groups := by
  rw [List.lookup_eq_some_iff]
  constructor
  · rintro ⟨front, back, hgroups, -⟩
    rw [hgroups]
    exact List.mem_append_right _ List.mem_cons_self
  · intro hentry
    obtain ⟨front, back, hgroups⟩ := List.append_of_mem hentry
    refine ⟨front, back, hgroups, fun other hother => bne_iff_ne.mpr fun heq => ?_⟩
    have hpoints := h.points
    rw [hgroups, List.map_append, List.map_cons] at hpoints
    have hdistinct := (List.nodup_append.mp hpoints).2.2 other.1 (List.mem_map_of_mem hother) point
      List.mem_cons_self
    exact hdistinct heq.symm

theorem mem_group_iff {point : Point} {registration : Registration} :
    registration ∈ registry.group point ↔ (point, registration) ∈ registry.pairs := by
  rw [mem_pairs_iff, group]
  cases hlookup : registry.groups.lookup point with
  | none =>
      have hnone : ¬ ∃ registrations, (point, registrations) ∈ registry.groups ∧
          registration ∈ registrations := by
        rintro ⟨registrations, hentry, -⟩
        rw [h.lookup_eq_some_iff.mpr hentry] at hlookup
        cases hlookup
      exact ⟨fun hmem => absurd hmem List.not_mem_nil, fun hsome => absurd hsome hnone⟩
  | some registrations =>
      constructor
      · intro hmem
        exact ⟨registrations, h.lookup_eq_some_iff.mp hlookup, hmem⟩
      · rintro ⟨others, hentry, hmem⟩
        rw [h.lookup_eq_some_iff.mpr hentry] at hlookup
        cases hlookup
        exact hmem

theorem nodup_group (point : Point) : (registry.group point).Nodup := by
  rw [group]
  cases hlookup : registry.groups.lookup point with
  | none => exact List.nodup_nil
  | some registrations => exact h.registrations _ (h.lookup_eq_some_iff.mp hlookup)

/-- A point has an entry exactly when it has a registration. -/
theorem mem_points_iff {point : Point} :
    point ∈ registry.groups.map Prod.fst ↔
      ∃ registration, (point, registration) ∈ registry.pairs := by
  constructor
  · intro hpoint
    obtain ⟨⟨_, registrations⟩, hentry, rfl⟩ := List.mem_map.mp hpoint
    obtain ⟨registration, hmem⟩ := List.exists_mem_of_ne_nil _ (h.pruned _ hentry)
    exact ⟨registration, mem_pairs_iff.mpr ⟨registrations, hentry, hmem⟩⟩
  · rintro ⟨registration, hpair⟩
    obtain ⟨registrations, hentry, -⟩ := mem_pairs_iff.mp hpair
    exact List.mem_map_of_mem (f := Prod.fst) hentry

theorem nodup_pairs : registry.pairs.Nodup := by
  refine List.nodup_flatMap.mpr ⟨?_, ?_⟩
  · intro entry hentry
    exact (h.registrations entry hentry).map fun _ _ heq => (Prod.mk.inj heq).2
  · refine (List.pairwise_map.mp h.points).imp fun {entry other} hne pair hpair hother => hne ?_
    obtain ⟨_, -, rfl⟩ := List.mem_map.mp hpair
    obtain ⟨_, -, heq⟩ := List.mem_map.mp hother
    exact (Prod.mk.inj heq).1.symm

end Grouped

/-- An insertion adds a point or adds to the entry of one. -/
theorem map_fst_addTo (point : Point) (registration : Registration)
    (groups : List (Point × List Registration)) :
    (addTo point registration groups).map Prod.fst =
      if point ∈ groups.map Prod.fst then groups.map Prod.fst
      else groups.map Prod.fst ++ [point] := by
  induction groups with
  | nil => rfl
  | cons head rest ih =>
      obtain ⟨other, registrations⟩ := head
      by_cases heq : other = point
      · simp [addTo, heq]
      · have hmem : point ∈ other :: rest.map Prod.fst ↔ point ∈ rest.map Prod.fst := by
          simp [Ne.symm heq]
        rw [addTo, if_neg heq, List.map_cons, ih, List.map_cons]
        simp only [hmem]
        split <;> rfl

theorem mem_addTo {point : Point} {registration : Registration}
    {groups : List (Point × List Registration)} {entry : Point × List Registration}
    (hentry : entry ∈ addTo point registration groups) :
    entry ∈ groups ∨ entry = (point, [registration]) ∨
      ∃ registrations, (point, registrations) ∈ groups ∧
        entry = (point, registrations ++ [registration]) := by
  induction groups with
  | nil => exact Or.inr (Or.inl (List.mem_singleton.mp hentry))
  | cons head rest ih =>
      obtain ⟨other, registrations⟩ := head
      rw [addTo] at hentry
      split at hentry
      · next heq =>
          subst heq
          rcases List.mem_cons.mp hentry with rfl | hrest
          · exact Or.inr (Or.inr ⟨registrations, List.mem_cons_self, rfl⟩)
          · exact Or.inl (List.mem_cons_of_mem _ hrest)
      · rcases List.mem_cons.mp hentry with rfl | hrest
        · exact Or.inl List.mem_cons_self
        · rcases ih hrest with hold | hnew | ⟨others, hothers, rfl⟩
          · exact Or.inl (List.mem_cons_of_mem _ hold)
          · exact Or.inr (Or.inl hnew)
          · exact Or.inr (Or.inr ⟨others, List.mem_cons_of_mem _ hothers, rfl⟩)

/-- Both removals keep of every entry a part, and drop the entries of which nothing is left. -/
def thin (registry : Registry) (keep : Point → List Registration → List Registration) : Registry :=
  ⟨prune (registry.groups.map fun (point, registrations) => (point, keep point registrations))⟩

theorem mem_pairs_thin {registry : Registry}
    {keep : Point → List Registration → List Registration} {point : Point}
    {registration : Registration} :
    (point, registration) ∈ (registry.thin keep).pairs ↔
      ∃ registrations, (point, registrations) ∈ registry.groups ∧
        registration ∈ keep point registrations := by
  rw [thin, pairs_prune, mem_pairs_iff]
  constructor
  · rintro ⟨kept, hentry, hmem⟩
    obtain ⟨⟨other, registrations⟩, hold, heq⟩ := List.mem_map.mp hentry
    obtain ⟨rfl, rfl⟩ := Prod.mk.inj heq
    exact ⟨registrations, hold, hmem⟩
  · rintro ⟨registrations, hentry, hmem⟩
    exact ⟨_, List.mem_map.mpr ⟨_, hentry, rfl⟩, hmem⟩

theorem erase_of_mem {registry : Registry} {point : Point} {registration : Registration}
    (hmem : registration ∈ registry.group point) :
    registry.erase point registration = (true, registry.thin fun other registrations =>
      if other = point then registrations.erase registration else registrations) :=
  if_pos hmem

theorem eraseApp_of_ne {registry : Registry} {app : App}
    (howned : registry.pairs.countP (fun (_, registration) => registration.app == app) ≠ 0) :
    registry.eraseApp app =
      (registry.pairs.countP fun (_, registration) => registration.app == app,
        registry.thin fun _ registrations =>
          registrations.filter fun registration => registration.app != app) :=
  if_neg howned

namespace Grouped

variable {registry : Registry} (h : registry.Grouped)
include h

theorem insert (point : Point) (registration : Registration) :
    (registry.insert point registration).2.Grouped := by
  refine ⟨h.pruned.insert point registration, ?_, ?_⟩
  · rw [Registry.insert]
    split
    · exact h.points
    · rw [map_fst_addTo]
      split
      · exact h.points
      · next hnew =>
          exact h.points.append (List.nodup_singleton point) (List.disjoint_singleton.mpr hnew)
  · rw [Registry.insert]
    split
    · exact h.registrations
    · next hnew =>
        intro entry hentry
        rcases mem_addTo hentry with hold | rfl | ⟨registrations, hold, rfl⟩
        · exact h.registrations entry hold
        · exact List.nodup_singleton registration
        · have hfresh : registration ∉ registrations := by
            rw [group, h.lookup_eq_some_iff.mpr hold] at hnew
            exact hnew
          exact (h.registrations _ hold).append (List.nodup_singleton registration)
            (List.disjoint_singleton.mpr hfresh)

theorem thin {keep : Point → List Registration → List Registration}
    (hkeep : ∀ point registrations, registrations.Nodup → (keep point registrations).Nodup) :
    (registry.thin keep).Grouped := by
  refine ⟨pruned_prune _, ?_, ?_⟩
  · have hpoints : (registry.groups.map fun entry => (entry.1, keep entry.1 entry.2)).map Prod.fst =
        registry.groups.map Prod.fst := by
      rw [List.map_map]
      rfl
    refine List.Nodup.sublist ((List.filter_sublist).map Prod.fst) ?_
    rw [hpoints]
    exact h.points
  · intro entry hentry
    obtain ⟨⟨point, registrations⟩, hold, rfl⟩ := List.mem_map.mp (List.mem_of_mem_filter hentry)
    exact hkeep point registrations (h.registrations _ hold)

theorem erase (point : Point) (registration : Registration) :
    (registry.erase point registration).2.Grouped := by
  have hkeep : ∀ (other : Point) (registrations : List Registration), registrations.Nodup →
      (if other = point then registrations.erase registration else registrations).Nodup := by
    intro other registrations hnodup
    split
    · exact hnodup.erase registration
    · exact hnodup
  by_cases hmem : registration ∈ registry.group point
  · rw [erase_of_mem hmem]
    exact h.thin hkeep
  · rw [Registry.erase, if_neg hmem]
    exact h

theorem eraseApp (app : App) : (registry.eraseApp app).2.Grouped := by
  by_cases howned : registry.pairs.countP (fun (_, registration) => registration.app == app) = 0
  · rw [Registry.eraseApp, if_pos howned]
    exact h
  · rw [eraseApp_of_ne howned]
    exact h.thin fun _ _ hnodup => hnodup.filter _

end Grouped

/-- The set of pairs that a registry stands for. -/
def toFinset (registry : Registry) : Finset (Point × Registration) :=
  registry.pairs.toFinset

theorem mem_toFinset {registry : Registry} {pair : Point × Registration} :
    pair ∈ registry.toFinset ↔ pair ∈ registry.pairs :=
  List.mem_toFinset

theorem Grouped.card_toFinset {registry : Registry} (h : registry.Grouped) :
    registry.toFinset.card = registry.size :=
  List.toFinset_card_of_nodup h.nodup_pairs

theorem Grouped.isEmpty_iff_toFinset {registry : Registry} (h : registry.Grouped) :
    registry.isEmpty = true ↔ registry.toFinset = ∅ := by
  rw [h.pruned.isEmpty_iff, toFinset, List.toFinset_eq_empty_iff]

theorem Grouped.toFinset_insert {registry : Registry} (h : registry.Grouped) (point : Point)
    (registration : Registration) :
    (registry.insert point registration).2.toFinset =
      Insert.insert (point, registration) registry.toFinset := by
  ext pair
  rw [Finset.mem_insert, mem_toFinset, mem_toFinset, Registry.insert]
  split
  · next hmem =>
      have hpair := h.mem_group_iff.mp hmem
      exact ⟨Or.inr, fun hor => hor.elim (fun heq => heq ▸ hpair) id⟩
  · exact mem_pairs_addTo

theorem Grouped.toFinset_erase {registry : Registry} (h : registry.Grouped) (point : Point)
    (registration : Registration) :
    (registry.erase point registration).2.toFinset =
      registry.toFinset.erase (point, registration) := by
  ext ⟨other, found⟩
  rw [Finset.mem_erase, mem_toFinset, mem_toFinset, Ne, Prod.mk.injEq]
  by_cases hmem : registration ∈ registry.group point
  · rw [erase_of_mem hmem, mem_pairs_thin, mem_pairs_iff]
    constructor
    · rintro ⟨registrations, hentry, hkept⟩
      split at hkept
      · have herased := (h.registrations _ hentry).mem_erase_iff.mp hkept
        exact ⟨fun hsame => herased.1 hsame.2, registrations, hentry, herased.2⟩
      · next hother => exact ⟨fun hsame => hother hsame.1, registrations, hentry, hkept⟩
    · rintro ⟨hne, registrations, hentry, hfound⟩
      refine ⟨registrations, hentry, ?_⟩
      split
      · next hother =>
          exact (h.registrations _ hentry).mem_erase_iff.mpr
            ⟨fun hsame => hne ⟨hother, hsame⟩, hfound⟩
      · exact hfound
  · rw [Registry.erase, if_neg hmem]
    have hnot := fun hpair => hmem (h.mem_group_iff.mpr hpair)
    refine ⟨fun hpair => ⟨fun hsame => hnot ?_, hpair⟩, And.right⟩
    rwa [← hsame.1, ← hsame.2]

theorem toFinset_eraseApp (registry : Registry) (app : App) :
    (registry.eraseApp app).2.toFinset = registry.toFinset.filter fun pair => pair.2.app ≠ app := by
  ext ⟨point, registration⟩
  rw [Finset.mem_filter, mem_toFinset, mem_toFinset]
  by_cases howned : registry.pairs.countP (fun (_, registration) => registration.app == app) = 0
  · rw [Registry.eraseApp, if_pos howned]
    have hnone := List.countP_eq_zero.mp howned
    exact ⟨fun hpair => ⟨hpair, fun heq => hnone _ hpair (beq_iff_eq.mpr heq)⟩, And.left⟩
  · rw [eraseApp_of_ne howned, mem_pairs_thin, mem_pairs_iff]
    constructor
    · rintro ⟨registrations, hentry, hkept⟩
      obtain ⟨hmem, hne⟩ := List.mem_filter.mp hkept
      exact ⟨⟨registrations, hentry, hmem⟩, bne_iff_ne.mp hne⟩
    · rintro ⟨⟨registrations, hentry, hmem⟩, hne⟩
      exact ⟨registrations, hentry, List.mem_filter.mpr ⟨hmem, bne_iff_ne.mpr hne⟩⟩

theorem eraseApp_fst (registry : Registry) (app : App) :
    (registry.eraseApp app).1 =
      registry.pairs.countP fun (_, registration) => registration.app == app := by
  simp only [eraseApp]
  split
  · next howned => exact howned.symm
  · rfl

theorem Grouped.insert_fst {registry : Registry} (h : registry.Grouped) (point : Point)
    (registration : Registration) :
    (registry.insert point registration).1 = decide ((point, registration) ∉ registry.toFinset) := by
  have hiff : registration ∈ registry.group point ↔ (point, registration) ∈ registry.toFinset :=
    h.mem_group_iff.trans mem_toFinset.symm
  rw [Registry.insert]
  split
  · next hmem => exact (decide_eq_false (not_not_intro (hiff.mp hmem))).symm
  · next hnew => exact (decide_eq_true (mt hiff.mpr hnew)).symm

theorem Grouped.erase_fst {registry : Registry} (h : registry.Grouped) (point : Point)
    (registration : Registration) :
    (registry.erase point registration).1 = decide ((point, registration) ∈ registry.toFinset) := by
  have hiff : registration ∈ registry.group point ↔ (point, registration) ∈ registry.toFinset :=
    h.mem_group_iff.trans mem_toFinset.symm
  rw [Registry.erase]
  split
  · next hmem => exact (decide_eq_true (hiff.mp hmem)).symm
  · next hnot => exact (decide_eq_false (mt hiff.mpr hnot)).symm

/-- What a registry can be asked to do. -/
inductive Edit where
  | insert (point : Point) (registration : Registration)
  | erase (point : Point) (registration : Registration)
  | eraseApp (app : App)
  | clear

/-- Edits of one pair tell whether they changed anything, the others how many pairs they removed. -/
inductive EditAnswer where
  | changed (changed : Bool)
  | removed (count : Nat)

def edit (registry : Registry) : Edit → EditAnswer × Registry
  | .insert point registration => (registry.insert point registration).map .changed id
  | .erase point registration => (registry.erase point registration).map .changed id
  | .eraseApp app => (registry.eraseApp app).map .removed id
  | .clear => registry.clear.map .removed id

/-- The registry that a sequence of edits leaves behind. -/
def afterEdits (edits : List Edit) : Registry :=
  edits.foldl (fun registry edit => (registry.edit edit).2) empty

namespace Edit

/-- What an edit does to a set of pairs. -/
def onPairs (pairs : Finset (Point × Registration)) : Edit → Finset (Point × Registration)
  | insert point registration => Insert.insert (point, registration) pairs
  | erase point registration => pairs.erase (point, registration)
  | eraseApp app => pairs.filter fun pair => pair.2.app ≠ app
  | clear => ∅

/-- The answer to an edit of a set of pairs. -/
def answerOn (pairs : Finset (Point × Registration)) : Edit → EditAnswer
  | insert point registration => .changed ((point, registration) ∉ pairs)
  | erase point registration => .changed ((point, registration) ∈ pairs)
  | eraseApp app => .removed (pairs \ (eraseApp app).onPairs pairs).card
  | clear => .removed pairs.card

end Edit

theorem Grouped.edit {registry : Registry} (h : registry.Grouped) (edit : Edit) :
    (registry.edit edit).2.Grouped := by
  cases edit with
  | insert point registration => exact h.insert point registration
  | erase point registration => exact h.erase point registration
  | eraseApp app => exact h.eraseApp app
  | clear => exact grouped_empty

theorem Grouped.toFinset_edit {registry : Registry} (h : registry.Grouped) (edit : Edit) :
    (registry.edit edit).2.toFinset = edit.onPairs registry.toFinset := by
  cases edit with
  | insert point registration => exact h.toFinset_insert point registration
  | erase point registration => exact h.toFinset_erase point registration
  | eraseApp app => exact registry.toFinset_eraseApp app
  | clear => rfl

/-- The pairs that an application owns are those that its removal takes out of the set. -/
theorem Grouped.card_owned {registry : Registry} (h : registry.Grouped) (app : App) :
    (registry.toFinset \ (Edit.eraseApp app).onPairs registry.toFinset).card =
      registry.pairs.countP fun (_, registration) => registration.app == app := by
  have howned : registry.toFinset \ (Edit.eraseApp app).onPairs registry.toFinset =
      (registry.pairs.filter fun (_, registration) => registration.app == app).toFinset := by
    ext pair
    simp only [Edit.onPairs, toFinset, Finset.mem_sdiff, Finset.mem_filter, List.mem_toFinset,
      List.mem_filter, beq_iff_eq, not_and, not_not]
    exact and_congr_right fun hpair => forall_prop_of_true hpair
  rw [howned, List.toFinset_card_of_nodup (h.nodup_pairs.filter _), List.countP_eq_length_filter]

theorem Grouped.edit_fst {registry : Registry} (h : registry.Grouped) (edit : Edit) :
    (registry.edit edit).1 = edit.answerOn registry.toFinset := by
  cases edit with
  | insert point registration =>
      exact congrArg EditAnswer.changed (h.insert_fst point registration)
  | erase point registration => exact congrArg EditAnswer.changed (h.erase_fst point registration)
  | eraseApp app =>
      have hcount := (registry.eraseApp_fst app).trans (h.card_owned app).symm
      exact congrArg EditAnswer.removed hcount
  | clear => exact congrArg EditAnswer.removed h.card_toFinset.symm

theorem grouped_afterEdits (edits : List Edit) :
    (afterEdits edits).Grouped ∧ (afterEdits edits).toFinset = edits.foldl Edit.onPairs ∅ := by
  induction edits using List.reverseRecOn with
  | nil => exact ⟨grouped_empty, rfl⟩
  | append_singleton edits edit ih =>
      obtain ⟨hgrouped, hpairs⟩ := ih
      rw [afterEdits, List.foldl_append, List.foldl_append]
      refine ⟨hgrouped.edit edit, ?_⟩
      rw [← hpairs]
      exact hgrouped.toFinset_edit edit

end Registry

/-- Registrations agree when they have the same handler, the same application and, if any, an
interface with the same parts, its network addresses in the same order. -/
def Registration.Agree (one other : Registration) : Prop :=
  one.handler = other.handler ∧
    (one.interface.map fun interface => (interface.name, interface.point, interface.mac,
      interface.vlan, interface.addresses)) =
      (other.interface.map fun interface => (interface.name, interface.point, interface.mac,
        interface.vlan, interface.addresses)) ∧
    one.app.id = other.app.id ∧ one.app.name = other.app.name

theorem Registration.eq_iff_agree {one other : Registration} : one = other ↔ one.Agree other := by
  constructor
  · rintro rfl
    exact ⟨rfl, rfl, rfl, rfl⟩
  · rintro ⟨hhandler, hinterface, hid, hname⟩
    have hinjective : Function.Injective fun interface : Interface =>
        (interface.name, interface.point, interface.mac, interface.vlan, interface.addresses) := by
      rintro ⟨⟩ ⟨⟩ heq
      simp only [Prod.mk.injEq] at heq
      obtain ⟨rfl, rfl, rfl, rfl, rfl⟩ := heq
      rfl
    obtain ⟨_, _, ⟨_, _⟩⟩ := one
    obtain ⟨_, _, ⟨_, _⟩⟩ := other
    cases hhandler
    cases Option.map_injective hinjective hinterface
    cases hid
    cases hname
    rfl

namespace Registry

/-- Whatever sequence of edits made it, a registry is the grouping by point of the set of pairs that
the same edits make of the empty set, and the next edit answers with what becomes of that set. Two
registrations are one when handler, interface and application agree. -/
theorem grouping_afterEdits (edits : List Edit) (edit : Edit) :
    let registry := afterEdits edits
    let pairs := edits.foldl Edit.onPairs ∅
    (registry.groups.map Prod.fst).Nodup ∧
      (∀ point, point ∈ registry.groups.map Prod.fst ↔
        ∃ registration, (point, registration) ∈ pairs) ∧
      (∀ point registrations, (point, registrations) ∈ registry.groups →
        registrations ≠ [] ∧ registrations.Nodup ∧ registry.group point = registrations ∧
          ∀ registration, registration ∈ registrations ↔ (point, registration) ∈ pairs) ∧
      registry.size = pairs.card ∧
      (registry.isEmpty = true ↔ pairs = ∅) ∧
      (registry.edit edit).1 = edit.answerOn pairs ∧
      ∀ one other : Registration, one = other ↔ one.Agree other := by
  intro registry pairs
  obtain ⟨hgrouped, hpairs⟩ := grouped_afterEdits edits
  have hmem : ∀ pair, pair ∈ registry.pairs ↔ pair ∈ pairs := by
    intro pair
    rw [← mem_toFinset, hpairs]
  refine ⟨hgrouped.points, ?_, ?_, ?_, ?_, ?_, fun _ _ => Registration.eq_iff_agree⟩
  · intro point
    rw [hgrouped.mem_points_iff]
    exact exists_congr fun registration => hmem (point, registration)
  · intro point registrations hentry
    have hgroup : registry.group point = registrations := by
      rw [group, hgrouped.lookup_eq_some_iff.mpr hentry]
      rfl
    refine ⟨hgrouped.pruned _ hentry, hgrouped.registrations _ hentry, hgroup, ?_⟩
    intro registration
    rw [← hgroup, hgrouped.mem_group_iff]
    exact hmem (point, registration)
  · rw [← hgrouped.card_toFinset, hpairs]
  · rw [hgrouped.isEmpty_iff_toFinset, hpairs]
  · rw [hgrouped.edit_fst, hpairs]

end Registry

end Neighbours
