/-! The tree that a TOML document describes, and the rules by which its statements build it: which
tables a dotted key or a header may enter, which it may bring into being, and which it may not
define a second time. -/

namespace Neighbours.Toml

/-- How a table came into being, which decides how it may be extended. -/
inductive Origin where
  /-- By a header of its own, or as the root. -/
  | declared
  /-- On the way to a table with a longer header. -/
  | implied
  /-- On the way to a value with a dotted key. -/
  | dotted
  /-- In braces. -/
  | inlined
deriving DecidableEq

/-- Texts, fractions, dates and times are told apart from other values, and their content is not
kept. -/
inductive Node where
  | boolean (value : Bool)
  | integer (value : Int)
  | scalar
  | array (items : List Node)
  | table (origin : Origin) (entries : List (String × Node))
  /-- The tables that repeated headers declare, the latest first. -/
  | tables (elements : List (List (String × Node)))

structure Table where
  origin : Origin
  entries : List (String × Node)

def Table.toNode (table : Table) : Node :=
  .table table.origin table.entries

/-- Replaces the value of a key, which is added if it is new. -/
def setEntry (key : String) (node : Node) : List (String × Node) → List (String × Node)
  | [] => [(key, node)]
  | (other, old) :: rest =>
    if other = key then (key, node) :: rest else (other, old) :: setEntry key node rest

namespace Node

/-- Changes the table that a path enters at this node. Tables in braces are closed. A dotted key
enters only tables that have no header of their own. -/
def enter? (byDottedKey : Bool) (change : Table → Option Table) : Node → Option Node
  | table origin entries =>
    if origin = .inlined ∨ byDottedKey ∧ origin = .declared then none
    else (change ⟨origin, entries⟩).map Table.toNode
  | tables (latest :: earlier) =>
    (change ⟨.declared, latest⟩).map fun latest => tables (latest.entries :: earlier)
  | _ => none

end Node

namespace Table

def root : Table :=
  ⟨.declared, []⟩

/-- Changes the table at the end of a path; tables that are missing on the way come into being. -/
def changeAt? (byDottedKey : Bool) : List String → (Table → Option Table) → Table → Option Table
  | [], change, table => change table
  | key :: path, change, table => do
    let node ←
      match table.entries.lookup key with
      | none =>
        let fresh : Table := ⟨if byDottedKey then .dotted else .implied, []⟩
        (changeAt? byDottedKey path change fresh).map Table.toNode
      | some node => node.enter? byDottedKey (changeAt? byDottedKey path change)
    return { table with entries := setEntry key node table.entries }

/-- Gives a new key its value. A table made by dotted keys takes values by dotted keys only, and no
other table takes one by a dotted key. -/
def define? (path : List String) (key : String) (node : Node) : Table → Option Table :=
  changeAt? true path fun table =>
    if decide (table.origin = .dotted) = path.isEmpty then none
    else if (table.entries.lookup key).isSome then none
    else some { table with entries := setEntry key node table.entries }

/-- Declares a table with a header of its own. One that a longer header implied keeps its entries.
-/
def declare? (path : List String) (key : String) : Table → Option Table :=
  changeAt? false path fun table =>
    match table.entries.lookup key with
    | none => some { table with entries := setEntry key (.table .declared []) table.entries }
    | some (.table .implied entries) =>
      some { table with entries := setEntry key (.table .declared entries) table.entries }
    | some _ => none

/-- Declares one more table of those that share a header. -/
def declareNext? (path : List String) (key : String) : Table → Option Table :=
  changeAt? false path fun table =>
    match table.entries.lookup key with
    | none => some { table with entries := setEntry key (.tables [[]]) table.entries }
    | some (.tables elements) =>
      some { table with entries := setEntry key (.tables ([] :: elements)) table.entries }
    | some _ => none

end Table

end Neighbours.Toml
