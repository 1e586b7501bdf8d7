import Neighbours.Settings
import Neighbours.Toml.Reader

/-! Settings kept in a file. Every setting may be missing from the file, and the file itself may be
missing; what is missing keeps its default. Settings that are read have to be valid; settings that
are kept need not be. -/

namespace Neighbours

/-- What a path leads to. -/
inductive Place where
  | nothing
  /-- The directory that would hold the file is missing. -/
  | unreachable
  | directory
  | file (content : ByteArray)

namespace Settings

def flag? (table : Toml.Table) (key : String) (default : Bool) : Option Bool :=
  match table.entries.lookup key with
  | none => some default
  | some (.boolean value) => some value
  | some _ => none

def number? (table : Toml.Table) (key : String) (default : UInt32) : Option UInt32 :=
  match table.entries.lookup key with
  | none => some default
  | some (.integer value) =>
    if 0 ≤ value ∧ value.toNat < UInt32.size then some (UInt32.ofNat value.toNat) else none
  | some _ => none

/-- The settings in a document; other entries are passed over. -/
def ofTable? (table : Toml.Table) : Option Settings := do
  let discovery ← flag? table "ndp_enabled" default.discovery
  let priority ← number? table "packet_priority" default.priority
  let warnDuplicates ← flag? table "warn_on_duplicate_replies" default.warnDuplicates
  return ⟨discovery, priority, warnDuplicates⟩

def ofLetters? (letters : List Char) : Option Settings :=
  (Toml.read? letters).bind ofTable?

def ofText (text : String) : Except SettingsFault Settings :=
  match ofLetters? text.toList with
  | none => .error .unreadable
  | some settings => settings.validate.map fun () => settings

def ofContent (content : ByteArray) : Except SettingsFault Settings :=
  match String.fromUTF8? content with
  | some text => ofText text
  | none => .error (.storage .notText)

def load : Place → Except SettingsFault Settings
  | .nothing | .unreachable => .ok default
  | .directory => .error (.storage .isDirectory)
  | .file content => ofContent content

def flagLetters (value : Bool) : List Char :=
  if value then "true".toList else "false".toList

/-- One line for each setting. -/
def letters (settings : Settings) : List Char :=
  "ndp_enabled = ".toList ++ flagLetters settings.discovery ++
    "\npacket_priority = ".toList ++ Numeral.decimal settings.priority.toNat ++
    "\nwarn_on_duplicate_replies = ".toList ++ flagLetters settings.warnDuplicates ++ ['\n']

def text (settings : Settings) : String :=
  String.ofList settings.letters

/-- What a path leads to after settings were kept there. -/
def save (settings : Settings) : Place → Except SettingsFault Place
  | .nothing | .file _ => .ok (.file settings.text.toUTF8)
  | .unreachable => .error (.storage .missing)
  | .directory => .error (.storage .isDirectory)

end Settings

end Neighbours
