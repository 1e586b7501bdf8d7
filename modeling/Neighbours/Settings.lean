/-! Settings of the resolution engine. -/

namespace Neighbours

structure Settings where
  /-- Whether neighbour discovery is intercepted besides ARP. -/
  discovery : Bool
  /-- The priority at which frames are requested. -/
  priority : UInt32
  /-- Whether a message that several handlers emitted for is logged. -/
  warnDuplicates : Bool
deriving DecidableEq

inductive StorageFault where
  | isDirectory
  | missing
  | notText
deriving DecidableEq

/-- Why settings were not taken over, read or kept. -/
inductive SettingsFault where
  | priority
  | unreadable
  | storage (fault : StorageFault)
deriving DecidableEq

def StorageFault.message : StorageFault → String
  | isDirectory => "Is a directory (os error 21)"
  | missing => "No such file or directory (os error 2)"
  | notText => "stream did not contain valid UTF-8"

def SettingsFault.message : SettingsFault → String
  | priority => "Configuration error: packet_priority must be 1-65535"
  | unreadable => "Configuration error: Failed to parse config file"
  | storage fault => s!"IO error: {fault.message}"

namespace Settings

def default : Settings :=
  ⟨false, 40000, true⟩

/-- The highest priority that the transport accepts. -/
def highestPriority : UInt32 := 65535

def validate (settings : Settings) : Except SettingsFault Unit :=
  if 1 ≤ settings.priority ∧ settings.priority ≤ highestPriority then .ok ()
  else .error .priority

end Settings

end Neighbours
