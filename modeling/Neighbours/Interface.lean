import Neighbours.Arrival

/-! Logical interfaces. An interface belongs to one attachment point; the hardware address, the VLAN
and the network addresses it may have narrow down which messages on that point concern it. What is
not set narrows nothing. -/

namespace Neighbours

structure Interface where
  name : String
  point : Point
  addresses : List Ip
  mac : Option Mac
  vlan : Option Vlan
deriving DecidableEq

namespace Interface

/-- An interface that every message on its attachment point concerns. -/
def plain (name : String) (point : Point) : Interface :=
  ⟨name, point, [], none, none⟩

/-- The zero hardware address stands for none. -/
def withMac (interface : Interface) (mac : Mac) : Interface :=
  { interface with mac := if mac.isZero then none else some mac }

def withVlan (interface : Interface) (vlan : Vlan) : Interface :=
  { interface with vlan := some vlan }

def withAddresses (interface : Interface) (addresses : List Ip) : Interface :=
  { interface with addresses := addresses }

def text (interface : Interface) : String :=
  s!"{interface.name}@{interface.point.text}"

/-- A broadcast reaches an interface whatever hardware address it has. -/
def admitsMac (interface : Interface) (destination : Mac) : Bool :=
  destination.isBroadcast || interface.mac.all (· == destination)

def admitsVlan (interface : Interface) (vlan : Option Vlan) : Bool :=
  interface.vlan.all fun own => vlan == some own

def admitsTarget (interface : Interface) (target : Ip) : Bool :=
  interface.addresses.isEmpty || interface.addresses.contains target

/-- Whether a message on the interface's attachment point concerns the interface. -/
def admits (interface : Interface) (arrival : Arrival) : Bool :=
  interface.admitsMac arrival.destination && interface.admitsVlan arrival.vlan &&
    interface.admitsTarget arrival.target

end Interface

end Neighbours
