import Neighbours.Arrival.Answer
import Neighbours.Interface
import Neighbours.Stats

/-! Actions on a message and the frames they send. Every frame passes the edge guard: it leaves only
through an attachment point that faces hosts. What the guard holds back is counted, and the action
goes on. -/

namespace Neighbours

/-- What is known of the attachment points that face hosts. The test for one point and the list of
points are supplied independently and need not agree. -/
structure Inventory where
  isEdge : Point → Bool
  edges : List Point

/-- The inventory that recognises the points of one list and enumerates another. -/
def Inventory.ofLists (recognised enumerated : List Point) : Inventory :=
  ⟨fun point => recognised.contains point, enumerated⟩

/-- A frame sent out of an attachment point. -/
structure Emission where
  point : Point
  frame : Bytes
deriving DecidableEq

inductive Action where
  | answer (mac : Mac)
  | forward (point : Point)
  | forwardTo (interface : Interface)
  | flood
  | drop
deriving DecidableEq

/-- What came of an action: the counters after it and the frames it sent, in order. -/
structure Transmission where
  stats : Stats
  sent : List Emission
deriving DecidableEq

/-- Sends a frame, if the guard lets it pass. -/
def Transmission.attempt (inventory : Inventory) (transmission : Transmission)
    (emission : Emission) : Transmission :=
  if inventory.isEdge emission.point then
    ⟨transmission.stats.countEmitted, transmission.sent ++ [emission]⟩
  else ⟨transmission.stats.countGuarded, transmission.sent⟩

/-- Of several attempts those pass whose attachment point faces hosts, in their order. -/
theorem Transmission.sent_foldl_attempt (inventory : Inventory) (emissions : List Emission)
    (transmission : Transmission) :
    (emissions.foldl (attempt inventory) transmission).sent =
      transmission.sent ++ emissions.filter fun emission => inventory.isEdge emission.point := by
  induction emissions generalizing transmission with
  | nil => simp
  | cons emission rest ih =>
    rw [List.foldl_cons, ih]
    by_cases h : inventory.isEdge emission.point <;> simp [attempt, h]

namespace Action

/-- The frames that an action tries to send. An answer goes back where the message came from, and a
flood goes everywhere else. -/
def attempts (edges : List Point) (arrival : Arrival) : Action → List Emission
  | answer mac => [⟨arrival.point, arrival.answer mac⟩]
  | forward point => [⟨point, arrival.frame⟩]
  | forwardTo interface => [⟨interface.point, Frame.retag arrival.frame interface.vlan⟩]
  | flood => (edges.filter (· ≠ arrival.point)).map fun point => ⟨point, arrival.frame⟩
  | drop => []

def perform (inventory : Inventory) (arrival : Arrival) (stats : Stats) (action : Action) :
    Transmission :=
  (action.attempts inventory.edges arrival).foldl (Transmission.attempt inventory) ⟨stats, []⟩

end Action

end Neighbours
