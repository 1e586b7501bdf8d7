import Neighbours.Interception
import Neighbours.Registry
import Neighbours.Stats

/-! The resolution engine and the commands that control it. The packet path reads the duplicate
warning from a copy of its own, which commands keep equal to the setting. -/

namespace Neighbours

structure Engine where
  app : App
  settings : Settings
  warnsDuplicates : Bool
  interception : Interception
  registry : Registry
  stats : Stats
deriving DecidableEq

inductive Command where
  | insert (point : Point) (registration : Registration)
  | erase (point : Point) (registration : Registration)
  | eraseApp (app : App)
  | configure (settings : Settings)
  | shutdown
deriving DecidableEq

inductive CommandAnswer where
  | done
  | removed (count : Nat)
  | accepted
  | refused (fault : SettingsFault)
deriving DecidableEq

/-- What a command did: the calls to the transport, in order, the engine after it and its answer. -/
structure CommandEffect where
  calls : List Call
  engine : Engine
  answer : CommandAnswer
deriving DecidableEq

namespace Engine

/-- A new engine takes its settings as they are. -/
def start (app : App) (settings : Settings) : Engine :=
  ⟨app, settings, settings.warnDuplicates, .idle, .empty, .zero⟩

def align (engine : Engine) (occupied : Bool) : List Call × Engine :=
  let (calls, interception) := engine.interception.align engine.settings engine.app occupied
  (calls, { engine with interception := interception })

/-- Takes over valid settings. What is requested at the old priority is withdrawn first if the
priority changes. -/
def configure (engine : Engine) (settings : Settings) : List Call × Engine :=
  if engine.settings = settings then ([], engine)
  else
    let (withdrawn, engine) :=
      if engine.settings.priority = settings.priority then ([], engine) else engine.align false
    let engine := { engine with warnsDuplicates := settings.warnDuplicates, settings := settings }
    let (requested, engine) := engine.align !engine.registry.isEmpty
    (withdrawn ++ requested, engine)

def run (engine : Engine) : Command → CommandEffect
  | .insert point registration =>
    let (_, registry) := engine.registry.insert point registration
    let (calls, engine) := { engine with registry := registry }.align true
    ⟨calls, engine, .done⟩
  | .erase point registration =>
    let (_, registry) := engine.registry.erase point registration
    let (calls, engine) := { engine with registry := registry }.align !registry.isEmpty
    ⟨calls, engine, .done⟩
  | .eraseApp app =>
    let (count, registry) := engine.registry.eraseApp app
    let (calls, engine) := { engine with registry := registry }.align !registry.isEmpty
    ⟨calls, engine, .removed count⟩
  | .configure settings =>
    match settings.validate with
    | .error fault => ⟨[], engine, .refused fault⟩
    | .ok () =>
      let (calls, engine) := engine.configure settings
      ⟨calls, engine, .accepted⟩
  | .shutdown =>
    ⟨Interception.cancelAll engine.settings.priority engine.app,
      { engine with interception := .idle, registry := engine.registry.clear.2 }, .done⟩

end Engine

end Neighbours
