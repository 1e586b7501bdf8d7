import Neighbours.Registry

/-! A registry that is only changed by its own operations keeps no attachment point without
registrations. Interception asks the registry whether it is empty, and this is what makes the answer
mean that no registration is left. -/

namespace Neighbours.Registry

/-- No attachment point has an entry without a registration. -/
def Pruned (registry : Registry) : Prop :=
  ∀ entry ∈ registry.groups, entry.2 ≠ []

theorem pruned_empty : empty.Pruned := by
  intro entry hentry
  exact absurd hentry List.not_mem_nil

theorem pruned_prune (groups : List (Point × List Registration)) :
    (Registry.mk (prune groups)).Pruned := by
  intro entry hentry
  exact nonempty_of_mem_prune hentry

theorem Pruned.addTo {groups : List (Point × List Registration)} (h : (Registry.mk groups).Pruned)
    (point : Point) (registration : Registration) :
    (Registry.mk (addTo point registration groups)).Pruned := by
  induction groups with
  | nil =>
      intro entry hentry
      rw [Registry.addTo, List.mem_singleton] at hentry
      subst hentry
      exact List.cons_ne_nil _ _
  | cons head rest ih =>
      obtain ⟨other, registrations⟩ := head
      have hrest : (Registry.mk rest).Pruned := by
        intro entry hentry
        exact h entry (List.mem_cons_of_mem _ hentry)
      intro entry hentry
      simp only [Registry.addTo] at hentry
      split at hentry
      · rcases List.mem_cons.mp hentry with rfl | hmem
        · exact List.append_ne_nil_of_right_ne_nil _ (List.cons_ne_nil _ _)
        · exact hrest entry hmem
      · rcases List.mem_cons.mp hentry with rfl | hmem
        · exact h _ List.mem_cons_self
        · exact ih hrest entry hmem

theorem Pruned.insert {registry : Registry} (h : registry.Pruned) (point : Point)
    (registration : Registration) : (registry.insert point registration).2.Pruned := by
  unfold Registry.insert
  split
  · exact h
  · exact h.addTo point registration

theorem Pruned.erase {registry : Registry} (h : registry.Pruned) (point : Point)
    (registration : Registration) : (registry.erase point registration).2.Pruned := by
  unfold Registry.erase
  split
  · exact pruned_prune _
  · exact h

theorem Pruned.eraseApp {registry : Registry} (h : registry.Pruned) (app : App) :
    (registry.eraseApp app).2.Pruned := by
  simp only [Registry.eraseApp]
  split
  · exact h
  · exact pruned_prune _

/-- After an insertion there is an entry, be the registration new or not. -/
theorem isEmpty_insert (registry : Registry) (point : Point) (registration : Registration) :
    (registry.insert point registration).2.isEmpty = false := by
  obtain ⟨groups⟩ := registry
  unfold insert
  split
  · next hmem =>
      cases groups with
      | nil => exact absurd hmem List.not_mem_nil
      | cons head rest => rfl
  · cases groups with
    | nil => rfl
    | cons head rest =>
        simp only [addTo]
        split <;> rfl

theorem Pruned.isEmpty_iff {registry : Registry} (h : registry.Pruned) :
    registry.isEmpty = true ↔ registry.pairs = [] := by
  obtain ⟨groups⟩ := registry
  cases groups with
  | nil => exact ⟨fun _ => rfl, fun _ => rfl⟩
  | cons head rest =>
      obtain ⟨point, registrations⟩ := head
      have hne : registrations ≠ [] := h _ List.mem_cons_self
      simp [isEmpty, pairs, hne]

theorem Pruned.isEmpty_eq_false_iff {registry : Registry} (h : registry.Pruned) :
    registry.isEmpty = false ↔ registry.pairs ≠ [] := by
  rw [Ne, ← h.isEmpty_iff, Bool.not_eq_true]

theorem Pruned.not_isEmpty {registry : Registry} (h : registry.Pruned) :
    (!registry.isEmpty) = decide (registry.pairs ≠ []) := by
  simp only [ne_eq, ← h.isEmpty_iff, Bool.decide_coe, decide_not]

end Neighbours.Registry
