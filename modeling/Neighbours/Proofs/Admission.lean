import Mathlib.Data.List.Basic
import Mathlib.Data.List.Induction
import Neighbours.Interface

/-! Which messages concern an interface. An interface is described step by step, where a later detail
replaces an earlier one of its kind; what it admits hangs on the last detail of each kind alone. Each kind
has its own way of leaving everything open: the zero hardware address, no VLAN at all, no network address in
the list. -/

namespace Neighbours

/-- A detail by which an interface is described. -/
inductive Detail where
  | mac (mac : Mac)
  | vlan (vlan : Vlan)
  | addresses (addresses : List Ip)
deriving DecidableEq

namespace Detail

def mac? : Detail → Option Mac
  | .mac given => some given
  | _ => none

def vlan? : Detail → Option Vlan
  | .vlan given => some given
  | _ => none

def addresses? : Detail → Option (List Ip)
  | .addresses given => some given
  | _ => none

/-- The last detail of a kind, if one was given. -/
def last? {α : Type} (kind? : Detail → Option α) (details : List Detail) : Option α :=
  (details.filterMap kind?).getLast?

theorem last?_concat {α : Type} (kind? : Detail → Option α) (details : List Detail)
    (detail : Detail) :
    last? kind? (details ++ [detail]) = (kind? detail).or (last? kind? details) := by
  rw [last?, List.filterMap_append, List.filterMap_cons]
  cases kind? detail with
  | none => rw [List.filterMap_nil, List.append_nil]; rfl
  | some value => rw [List.filterMap_nil, List.getLast?_concat]; rfl

end Detail

namespace Interface

def add (interface : Interface) : Detail → Interface
  | .mac mac => interface.withMac mac
  | .vlan vlan => interface.withVlan vlan
  | .addresses addresses => interface.withAddresses addresses

/-- The interface that has been described by some details, one after the other. -/
def ofDetails (name : String) (point : Point) (details : List Detail) : Interface :=
  details.foldl add (plain name point)

section Described

variable (name : String) (point : Point) (details : List Detail)

theorem ofDetails_concat (detail : Detail) :
    ofDetails name point (details ++ [detail]) = (ofDetails name point details).add detail :=
  List.foldl_concat add (plain name point) detail details

theorem mac_ofDetails :
    (ofDetails name point details).mac = (Detail.last? Detail.mac? details).filter (!·.isZero) := by
  induction details using List.reverseRecOn with
  | nil => rfl
  | append_singleton details detail ih =>
      rw [ofDetails_concat, Detail.last?_concat]
      cases detail with
      | mac mac => cases hzero : mac.isZero <;> simp [add, withMac, Detail.mac?, hzero, Option.filter]
      | vlan vlan => exact ih
      | addresses addresses => exact ih

theorem vlan_ofDetails :
    (ofDetails name point details).vlan = Detail.last? Detail.vlan? details := by
  induction details using List.reverseRecOn with
  | nil => rfl
  | append_singleton details detail ih =>
      rw [ofDetails_concat, Detail.last?_concat]
      cases detail with
      | vlan vlan => rfl
      | mac mac => exact ih
      | addresses addresses => exact ih

theorem addresses_ofDetails :
    (ofDetails name point details).addresses =
      (Detail.last? Detail.addresses? details).getD [] := by
  induction details using List.reverseRecOn with
  | nil => rfl
  | append_singleton details detail ih =>
      rw [ofDetails_concat, Detail.last?_concat]
      cases detail with
      | addresses addresses => rfl
      | mac mac => exact ih
      | vlan vlan => exact ih

end Described

section Fields

variable {interface : Interface}

theorem admitsMac_iff {destination : Mac} :
    interface.admitsMac destination = true ↔
      destination = Mac.broadcast ∨ ∀ mac, interface.mac = some mac → mac = destination := by
  simp [admitsMac, Mac.isBroadcast, Option.all_eq_true]

theorem admitsVlan_iff {vlan : Option Vlan} :
    interface.admitsVlan vlan = true ↔ ∀ own, interface.vlan = some own → vlan = some own := by
  simp [admitsVlan, Option.all_eq_true]

theorem admitsTarget_iff {target : Ip} :
    interface.admitsTarget target = true ↔
      interface.addresses = [] ∨ target ∈ interface.addresses := by
  simp [admitsTarget]

theorem admits_iff {arrival : Arrival} :
    interface.admits arrival = true ↔
      (arrival.destination = Mac.broadcast ∨
          ∀ mac, interface.mac = some mac → mac = arrival.destination) ∧
        (∀ vlan, interface.vlan = some vlan → arrival.vlan = some vlan) ∧
        (interface.addresses = [] ∨ arrival.target ∈ interface.addresses) := by
  rw [admits, Bool.and_eq_true, Bool.and_eq_true, admitsMac_iff, admitsVlan_iff, admitsTarget_iff,
    and_assoc]

/-- Of the addresses it only counts which they are, not in which order and how often they stand. -/
theorem admits_withAddresses_congr (interface : Interface) {addresses other : List Ip}
    (h : ∀ address, address ∈ addresses ↔ address ∈ other) (arrival : Arrival) :
    (interface.withAddresses addresses).admits arrival =
      (interface.withAddresses other).admits arrival := by
  have hnil : addresses = [] ↔ other = [] := by
    rw [List.eq_nil_iff_forall_not_mem, List.eq_nil_iff_forall_not_mem]
    exact forall_congr' fun address => not_congr (h address)
  rw [Bool.eq_iff_iff, admits_iff, admits_iff]
  simp only [withAddresses, h, hnil]

end Fields

/-- An interface admits a message exactly if none of its details rules it out. The hardware address given last
does unless it is zero or the destination, which may also be the broadcast; the VLAN given last does unless it
is that of the message; and the addresses given last do unless there are none or the target is one of them.
Therefore neither the order of the addresses nor their repetition matters; a hardware address or a VLAN where
there was none can only take messages away, and an address besides others can only add some. Two interfaces
with different VLANs never admit the same message, and two with different hardware addresses only a broadcast.
-/
theorem admits_exactly (arrival : Arrival) :
    (∀ name point details,
        (ofDetails name point details).admits arrival = true ↔
          (arrival.destination = Mac.broadcast ∨
              ∀ mac, Detail.last? Detail.mac? details = some mac →
                mac = Mac.zero ∨ mac = arrival.destination) ∧
            (∀ vlan, Detail.last? Detail.vlan? details = some vlan → arrival.vlan = some vlan) ∧
            ∀ addresses, Detail.last? Detail.addresses? details = some addresses →
              addresses = [] ∨ arrival.target ∈ addresses) ∧
      (∀ (interface : Interface) (addresses other : List Ip),
        (∀ address, address ∈ addresses ↔ address ∈ other) →
          (interface.withAddresses addresses).admits arrival =
            (interface.withAddresses other).admits arrival) ∧
      (∀ (interface : Interface) (mac : Mac), interface.mac = none →
        (interface.withMac mac).admits arrival = true → interface.admits arrival = true) ∧
      (∀ (interface : Interface) (vlan : Vlan), interface.vlan = none →
        (interface.withVlan vlan).admits arrival = true → interface.admits arrival = true) ∧
      (∀ (interface : Interface) (addresses : List Ip), interface.addresses ≠ [] →
        interface.addresses ⊆ addresses → interface.admits arrival = true →
          (interface.withAddresses addresses).admits arrival = true) ∧
      ∀ one other : Interface, one.admits arrival = true → other.admits arrival = true →
        (∀ own foreign, one.vlan = some own → other.vlan = some foreign → own = foreign) ∧
          ∀ own foreign, one.mac = some own → other.mac = some foreign → own ≠ foreign →
            arrival.destination = Mac.broadcast := by
  refine ⟨?_, fun interface addresses other h => interface.admits_withAddresses_congr h arrival, ?_, ?_,
    ?_, ?_⟩
  · intro name point details
    rw [admits_iff, vlan_ofDetails, addresses_ofDetails]
    have hmac : (∀ mac, (ofDetails name point details).mac = some mac → mac = arrival.destination) ↔
        ∀ mac, Detail.last? Detail.mac? details = some mac →
          mac = Mac.zero ∨ mac = arrival.destination := by
      simp only [mac_ofDetails, Option.filter_eq_some_iff, and_imp, Bool.not_eq_true', Mac.isZero,
        beq_eq_false_iff_ne, or_iff_not_imp_left]
    rw [hmac]
    cases Detail.last? Detail.addresses? details <;> simp
  · intro interface mac hnone h
    obtain ⟨-, hvlan, htarget⟩ := admits_iff.mp h
    refine admits_iff.mpr ⟨Or.inr fun own hown => ?_, hvlan, htarget⟩
    rw [hnone] at hown
    cases hown
  · intro interface vlan hnone h
    obtain ⟨hmac, -, htarget⟩ := admits_iff.mp h
    refine admits_iff.mpr ⟨hmac, fun own hown => ?_, htarget⟩
    rw [hnone] at hown
    cases hown
  · intro interface addresses hsome hmore h
    obtain ⟨hmac, hvlan, htarget⟩ := admits_iff.mp h
    exact admits_iff.mpr ⟨hmac, hvlan, Or.inr (hmore (htarget.resolve_left hsome))⟩
  · intro one other hone hother
    obtain ⟨hmac, hvlan, -⟩ := admits_iff.mp hone
    obtain ⟨hmacOther, hvlanOther, -⟩ := admits_iff.mp hother
    constructor
    · intro own foreign hown hforeign
      exact Option.some.inj ((hvlan own hown).symm.trans (hvlanOther foreign hforeign))
    · intro own foreign hown hforeign hne
      by_contra hunicast
      have hdestination := hmac.resolve_left hunicast own hown
      have hdestinationOther := hmacOther.resolve_left hunicast foreign hforeign
      exact hne (hdestination.trans hdestinationOther.symm)

end Interface

end Neighbours
