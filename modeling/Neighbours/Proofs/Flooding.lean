import Neighbours.Proofs.Emission
import Neighbours.Proofs.Routine

/-! What a flood does. The attachment points that are enumerated are gone through in their order: the
one that the message came from is passed over, at the others the frame is sent or held back, whatever
became of it at those before. A point that is enumerated several times is gone through as often. The
message counts one emission more if the frame was sent anywhere. -/

namespace Neighbours

namespace Inventory

variable (inventory : Inventory) (entry : Point)

/-- Where a message from `entry` is sent when it is flooded. -/
def reached : List Point :=
  inventory.edges.filter fun point => point ≠ entry ∧ inventory.isEdge point

/-- Where it is held back. -/
def barred : List Point :=
  inventory.edges.filter fun point => point ≠ entry ∧ !inventory.isEdge point

end Inventory

namespace Action

variable (inventory : Inventory) (arrival : Arrival)

/-- The attempts of a flood at those attachment points that pass a test. -/
theorem filter_attempts_flood (passes : Point → Bool) :
    (flood.attempts inventory.edges arrival).filter (fun emission => passes emission.point) =
      (inventory.edges.filter fun point => point ≠ arrival.point ∧ passes point).map
        fun point => ⟨point, arrival.frame⟩ := by
  rw [attempts, List.filter_map, List.filter_filter]
  apply congrArg (List.map _)
  apply List.filter_congr
  intro point _
  simp [Bool.and_comm]

theorem sent_flood :
    flood.sent inventory arrival =
      (inventory.reached arrival.point).map fun point => ⟨point, arrival.frame⟩ :=
  filter_attempts_flood inventory arrival inventory.isEdge

theorem held_flood :
    flood.held inventory arrival =
      (inventory.barred arrival.point).map fun point => ⟨point, arrival.frame⟩ :=
  filter_attempts_flood inventory arrival fun point => !inventory.isEdge point

theorem perform_flood (stats : Stats) :
    flood.perform inventory arrival stats =
      ⟨stats.transmitted (inventory.reached arrival.point).length
          (inventory.barred arrival.point).length,
        (inventory.reached arrival.point).map fun point => ⟨point, arrival.frame⟩⟩ := by
  rw [perform_eq, sent_flood, held_flood, List.length_map, List.length_map]

end Action

namespace Machine

/-- Whenever an action is taken in a run, the message that it is taken on is one that is counted for. -/
theorem message_lt_of_acting {order : Order} {handlers : Handlers} {app : App} {settings : Settings}
    {inventory : Inventory} {agenda : List Operation} {n : Nat} {handle : Handle} {action : Action}
    (h : (runIn order handlers n (start app settings inventory agenda)).acting? =
      some (handle, action)) :
    handle.message < (runIn order handlers n (start app settings inventory agenda)).emissions.length := by
  have hnumbered := numbered_start app settings inventory agenda
  have htraced := traced_runIn order handlers n hnumbered (traced_start app settings inventory agenda)
  obtain ⟨number, registration, hinvoked⟩ := exists_invoked_of_acting htraced h
  exact ((numbered_runIn order handlers n hnumbered).invoked_lt _ _ _ hinvoked).2

/-- A flood sends the frame of its message, as it was received, out of every enumerated attachment point
that is recognised as facing hosts and is not the one the message came from, in the order and as often as
they are enumerated. As many frames are counted as sent, and as many as held back as there are further
points enumerated; the message counts one emission more exactly if a frame was sent; and nothing else
changes. In a run there is a count for every message that is acted on. -/
theorem flood_exactly :
    (∀ (machine : Machine) (handle : Handle),
        let reached := machine.inventory.reached handle.arrival.point
        let barred := machine.inventory.barred handle.arrival.point
        let stats := machine.engine.stats
        machine.act handle .flood =
          { machine with
            engine := { machine.engine with
              stats := { stats with
                emitted := stats.emitted + .ofNat reached.length
                guarded := stats.guarded + .ofNat barred.length } }
            emissions :=
              if reached = [] then machine.emissions
              else machine.emissions.modify handle.message (· + 1)
            history := .acted machine.runner? handle .flood machine.inventory
              (reached.map fun point => ⟨point, handle.arrival.frame⟩) :: machine.history }) ∧
      ∀ order handlers app settings inventory agenda n handle action,
        let machine := runIn order handlers n (start app settings inventory agenda)
        machine.acting? = some (handle, action) → handle.message < machine.emissions.length := by
  constructor
  · intro machine handle reached barred stats
    have hsilent : (reached.map fun point => Emission.mk point handle.arrival.frame).isEmpty ↔
        reached = [] := by
      rw [List.isEmpty_iff, List.map_eq_nil_iff]
    rw [act, Action.perform_flood]
    simp only [reached, barred, stats, record, Stats.transmitted, ← hsilent]
  · intro order handlers app settings inventory agenda n handle action machine hacting
    exact message_lt_of_acting hacting

end Machine

/-! A handler floods a message where one attachment point and the one the message came from are
enumerated twice, and one is enumerated without being recognised. -/

namespace Repeated

open Sample (point app registration)

def near : Point := ⟨"leaf", 2⟩

def far : Point := ⟨"spine", 1⟩

def arrival : Arrival := { Sample.arrival with frame := [0xff] }

def handle : Handle := ⟨0, arrival⟩

def handlers : Handlers := fun _ _ _ => ⟨[.act .flood], .normal⟩

def inventory : Inventory := .ofLists [point, near] [near, point, far, near, point]

def agenda : List Operation :=
  [.command (.insert point (registration "first")), .dispatch arrival]

def run (n : Nat) : Machine :=
  Machine.runIn .asRegistered handlers n (.start app .default inventory agenda)

theorem flood_repeated :
    (run 3).acting? = some (handle, .flood) ∧ handle.message < (run 3).emissions.length ∧
      ((run 3).act handle .flood).emissions = [1] ∧
      ((run 3).act handle .flood).engine.stats.emitted = 2 ∧
      ((run 3).act handle .flood).engine.stats.guarded = 1 ∧
      ((run 3).act handle .flood).history = .acted (some 0) handle .flood inventory
        [⟨near, [0xff]⟩, ⟨near, [0xff]⟩] :: (run 3).history := by
  obtain ⟨hall, hcounted⟩ := Machine.flood_exactly
  have hflood := hall (run 3) handle
  have hacting : (run 3).acting? = some (handle, .flood) := rfl
  have hmessage := hcounted .asRegistered handlers app .default inventory agenda 3 handle .flood hacting
  refine ⟨hacting, hmessage, ?_, ?_, ?_, ?_⟩
  · exact (congrArg Machine.emissions hflood).trans rfl
  · exact (congrArg (fun machine => machine.engine.stats.emitted) hflood).trans rfl
  · exact (congrArg (fun machine => machine.engine.stats.guarded) hflood).trans rfl
  · exact (congrArg Machine.history hflood).trans rfl

end Repeated

end Neighbours
