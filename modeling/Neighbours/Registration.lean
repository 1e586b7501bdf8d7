import Neighbours.App
import Neighbours.Interface

/-! Handler registrations: on behalf of an application, a handler is to see the messages of an
attachment point, or only those that concern one interface. Handlers are known by name. -/

namespace Neighbours

structure Registration where
  handler : String
  interface : Option Interface
  app : App
deriving DecidableEq

namespace Registration

def accepts (registration : Registration) (arrival : Arrival) : Bool :=
  registration.interface.all fun interface => interface.admits arrival

end Registration

end Neighbours
