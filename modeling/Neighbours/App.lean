import Neighbours.Numeral

/-! Applications, the owners of handler registrations. -/

namespace Neighbours

structure App where
  id : UInt16
  name : String
deriving DecidableEq

/-- Applications are ordered by number, then by name, character by character. -/
instance : Ord App where
  compare left right := (compare left.id right.id).then (compare left.name right.name)

namespace App

def text (app : App) : String :=
  String.ofList (Numeral.decimal app.id.toNat ++ ':' :: app.name.toList)

end App

end Neighbours
