import Neighbours.Message
import Neighbours.Point
import Neighbours.Vlan

/-! A neighbour message together with where and how it arrived. -/

namespace Neighbours

structure Arrival where
  point : Point
  source : Mac
  destination : Mac
  vlan : Option Vlan
  message : Message
  frame : Bytes
deriving DecidableEq

namespace Arrival

def target (arrival : Arrival) : Ip :=
  arrival.message.target

def sender (arrival : Arrival) : Ip :=
  arrival.message.sender

def text (arrival : Arrival) : String :=
  let line := s!"{arrival.message.protocol} {arrival.message.direction.text} " ++
    s!"{arrival.sender.text} -> {arrival.target.text} on {arrival.point.text}"
  match arrival.vlan with
  | some vlan => s!"{line} vlan {vlan.text}"
  | none => line

end Arrival

end Neighbours
