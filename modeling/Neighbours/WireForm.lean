import Neighbours.App
import Neighbours.Json.Reader
import Neighbours.Json.Writer
import Neighbours.Mac
import Neighbours.Point
import Neighbours.Settings
import Neighbours.Vlan

/-! The JSON forms of values. Hardware addresses, device names and the names inside records are
strings, VLANs and numbers are numbers; attachment points, applications and settings are records.
Reading checks what the type demands and nothing more: settings may have any priority. -/

namespace Neighbours

structure WireForm (α : Type) where
  ofValue? : Json.Value → Option α
  letters : α → List Char

namespace WireForm

def read? {α : Type} (form : WireForm α) (text : String) : Option α :=
  (Json.read? text.toList).bind form.ofValue?

def write {α : Type} (form : WireForm α) (value : α) : String :=
  String.ofList (form.letters value)

/-- The text that a value read from a text is written as. -/
def normalise? {α : Type} (form : WireForm α) (text : String) : Option String :=
  (form.read? text).map form.write

def mac : WireForm Mac where
  ofValue? value := value.text?.bind fun text => Mac.ofLetters? text.toList
  letters mac := Json.quoted mac.text

def vlan : WireForm Vlan where
  ofValue? value := (value.below? UInt16.size).bind Vlan.ofId?
  letters vlan := Json.natural vlan.id

def device : WireForm String where
  ofValue? value := value.text?
  letters device := Json.quoted device

def pointNumber : WireForm UInt64 where
  ofValue? value := (value.below? UInt64.size).map UInt64.ofNat
  letters number := Json.natural number.toNat

def priority : WireForm UInt32 where
  ofValue? value := (value.below? UInt32.size).map UInt32.ofNat
  letters priority := Json.natural priority.toNat

def point : WireForm Point where
  ofValue? value :=
    match value.fields? ["device_id", "port"] with
    | some [some deviceValue, some numberValue] => do
      let device ← device.ofValue? deviceValue
      let number ← pointNumber.ofValue? numberValue
      return ⟨device, number⟩
    | _ => none
  letters point :=
    Json.object
      [("device_id", device.letters point.device), ("port", pointNumber.letters point.number)]

def app : WireForm App where
  ofValue? value :=
    match value.fields? ["id", "name"] with
    | some [some idValue, some nameValue] => do
      let id ← idValue.below? UInt16.size
      let name ← nameValue.text?
      return ⟨UInt16.ofNat id, name⟩
    | _ => none
  letters app := Json.object [("id", Json.natural app.id.toNat), ("name", Json.quoted app.name)]

/-- A field that is not given keeps its default. -/
def settings : WireForm Settings where
  ofValue? value :=
    match value.fields? ["ndp_enabled", "packet_priority", "warn_on_duplicate_replies"] with
    | some [discoveryValue, priorityValue, warnValue] => do
      let discovery ← discoveryValue.elim (some Settings.default.discovery) Json.Value.boolean?
      let priority ← priorityValue.elim (some Settings.default.priority) priority.ofValue?
      let warnDuplicates ← warnValue.elim (some Settings.default.warnDuplicates) Json.Value.boolean?
      return ⟨discovery, priority, warnDuplicates⟩
    | _ => none
  letters settings :=
    Json.object
      [("ndp_enabled", Json.boolean settings.discovery),
        ("packet_priority", priority.letters settings.priority),
        ("warn_on_duplicate_replies", Json.boolean settings.warnDuplicates)]

end WireForm

end Neighbours
