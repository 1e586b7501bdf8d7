import Neighbours.Registration
import Neighbours.Text.Quoted

/-! A description of a registration that shows all its fields. -/

namespace Neighbours

namespace Description

/-- A record with the descriptions of its fields. -/
def record (name : String) (fields : List (String × String)) : String :=
  let shown := fields.map fun (field, description) => field ++ ": " ++ description
  name ++ " \x7b " ++ ", ".intercalate shown ++ " \x7d"

def list (items : List String) : String :=
  "[" ++ ", ".intercalate items ++ "]"

def option : Option String → String
  | none => "None"
  | some description => "Some(" ++ description ++ ")"

end Description

def Point.describe (point : Point) : String :=
  Description.record "ConnectPoint"
    [("device_id", s!"DeviceId({Text.quoted point.device})"),
      ("port", s!"PortNumber({point.number.toNat})")]

def Mac.describe (mac : Mac) : String :=
  "MacAddress(" ++ Description.list (mac.bytes.map fun octet => toString octet.toNat) ++ ")"

def Vlan.describe (vlan : Vlan) : String :=
  s!"VlanId({vlan.id})"

def App.describe (app : App) : String :=
  Description.record "ApplicationId"
    [("id", toString app.id.toNat), ("name", Text.quoted app.name)]

def Interface.describe (interface : Interface) : String :=
  Description.record "Interface"
    [("name", Text.quoted interface.name),
      ("connect_point", interface.point.describe),
      ("ip_addresses", Description.list (interface.addresses.map Ip.text)),
      ("mac", Description.option (interface.mac.map Mac.describe)),
      ("vlan", Description.option (interface.vlan.map Vlan.describe))]

def Registration.describe (registration : Registration) : String :=
  Description.record "HandlerRegistration"
    [("handler", Text.quoted registration.handler),
      ("intf", Description.option (registration.interface.map Interface.describe)),
      ("app_id", registration.app.describe)]

end Neighbours
