/-! JSON values as the wire forms need them. Integers without a sign are kept apart from all other
numbers, which no wire form uses. A string that names half of a surrogate pair has no text; it is
read nevertheless, because values nobody asks for may hold one. -/

namespace Neighbours.Json

inductive Value where
  | null
  | boolean (value : Bool)
  | natural (value : Nat)
  | number
  | text (content : Option String)
  | array (items : List Value)
  | object (members : List (Option String × Value))

namespace Value

def boolean? : Value → Option Bool
  | boolean value => some value
  | _ => none

/-- A number below a bound. -/
def below? (bound : Nat) : Value → Option Nat
  | natural value => if value < bound then some value else none
  | _ => none

def text? : Value → Option String
  | text content => content
  | _ => none

/-- The values given for the named fields of a record. A record is written as an object or as an
array of its fields in order, which may end early. An object may have other members as well, but no
field twice. -/
def fields? (names : List String) : Value → Option (List (Option Value))
  | array items =>
    if items.length ≤ names.length then some (names.mapIdx fun index _ => items[index]?) else none
  | object members =>
    let keys := members.map Prod.fst
    if keys.all Option.isSome && names.all fun name => decide (keys.count (some name) ≤ 1) then
      some (names.map fun name => members.lookup (some name))
    else none
  | _ => none

end Value

end Neighbours.Json
