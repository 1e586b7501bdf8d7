import Neighbours.Registration

/-! The registry of handlers: for each attachment point the registrations made for it, each at most
once. A point without registrations has no entry, so that the registry is empty exactly when it
holds none. -/

namespace Neighbours

structure Registry where
  groups : List (Point × List Registration)
deriving DecidableEq

namespace Registry

def empty : Registry := ⟨[]⟩

/-- The registrations of one attachment point. -/
def group (registry : Registry) (point : Point) : List Registration :=
  (registry.groups.lookup point).getD []

/-- Every registration together with its attachment point. -/
def pairs (registry : Registry) : List (Point × Registration) :=
  registry.groups.flatMap fun (point, registrations) => registrations.map (point, ·)

def size (registry : Registry) : Nat :=
  registry.pairs.length

def isEmpty (registry : Registry) : Bool :=
  registry.groups.isEmpty

def addTo (point : Point) (registration : Registration) :
    List (Point × List Registration) → List (Point × List Registration)
  | [] => [(point, [registration])]
  | (other, registrations) :: rest =>
    if other = point then (other, registrations ++ [registration]) :: rest
    else (other, registrations) :: addTo point registration rest

/-- Drops the points that have no registration left. -/
def prune (groups : List (Point × List Registration)) : List (Point × List Registration) :=
  groups.filter fun (_, registrations) => !registrations.isEmpty

/-- Adds a registration, and tells whether it was not there before. -/
def insert (registry : Registry) (point : Point) (registration : Registration) : Bool × Registry :=
  if registration ∈ registry.group point then (false, registry)
  else (true, ⟨addTo point registration registry.groups⟩)

/-- Removes a registration, and tells whether it was there. -/
def erase (registry : Registry) (point : Point) (registration : Registration) : Bool × Registry :=
  if registration ∈ registry.group point then
    (true, ⟨prune (registry.groups.map fun (other, registrations) =>
      (other, if other = point then registrations.erase registration else registrations))⟩)
  else (false, registry)

/-- Removes every registration of an application, and tells how many there were. -/
def eraseApp (registry : Registry) (app : App) : Nat × Registry :=
  let owned := registry.pairs.countP fun (_, registration) => registration.app == app
  if owned = 0 then (0, registry)
  else
    (owned, ⟨prune (registry.groups.map fun (point, registrations) =>
      (point, registrations.filter fun registration => registration.app != app))⟩)

/-- Removes every registration, and tells how many there were. -/
def clear (registry : Registry) : Nat × Registry :=
  (registry.size, empty)

theorem mem_pairs_addTo {point : Point} {registration : Registration}
    {groups : List (Point × List Registration)} {pair : Point × Registration} :
    pair ∈ (Registry.mk (addTo point registration groups)).pairs ↔
      pair = (point, registration) ∨ pair ∈ (Registry.mk groups).pairs := by
  induction groups with
  | nil => simp [addTo, pairs]
  | cons head rest ih =>
    obtain ⟨other, registrations⟩ := head
    simp only [pairs] at ih
    simp only [addTo]
    split
    · next h =>
      subst h
      simp only [pairs, List.flatMap_cons, List.mem_append, List.map_append, List.map_cons,
        List.map_nil, List.mem_singleton]
      rw [or_assoc, or_left_comm]
    · simp only [pairs, List.flatMap_cons, List.mem_append, ih]
      rw [or_left_comm]

/-- Pruning drops no registration. -/
theorem pairs_prune (groups : List (Point × List Registration)) :
    (Registry.mk (prune groups)).pairs = (Registry.mk groups).pairs := by
  induction groups with
  | nil => rfl
  | cons head rest ih =>
    obtain ⟨point, registrations⟩ := head
    simp only [pairs, prune, List.flatMap_cons] at ih ⊢
    cases registrations with
    | nil => simpa using ih
    | cons first more => simpa using ih

theorem nonempty_of_mem_prune {groups : List (Point × List Registration)} {point : Point}
    {registrations : List Registration} (h : (point, registrations) ∈ prune groups) :
    registrations ≠ [] := by
  simp only [prune, List.mem_filter] at h
  intro hnil
  simp [hnil] at h

end Registry

end Neighbours
