/-! Why a text or a number names no value of the library. The offending input is part of the fault
and is quoted in its message. -/

namespace Neighbours

inductive ValueFault where
  | mac (text : String)
  | vlan (id : Nat)
  | pointNumber (text : String)
  | point (text : String)
deriving DecidableEq

namespace ValueFault

def message : ValueFault → String
  | mac text => s!"invalid MAC address format: {text}"
  | vlan id => s!"invalid VLAN ID: {id} (must be 1-4094)"
  | pointNumber text => s!"invalid port number: {text}"
  | point text => s!"invalid connect point: {text} (expected <device>/<port>)"

end ValueFault

end Neighbours
