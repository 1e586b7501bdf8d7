import Neighbours.Frame.Access
import Neighbours.Vlan

/-! The VLAN tag of an Ethernet frame: four octets after the two hardware addresses, the second pair
of which holds the identifier in its low twelve bits. Only the outermost tag is looked at. -/

namespace Neighbours.Frame

/-- The frame kind that announces a tag. -/
def tagKind : Nat := 0x8100

/-- A frame without its outermost tag, and the identifier that the tag carried. -/
structure Untagged where
  vlan : Option Vlan
  frame : Bytes
deriving DecidableEq

/-- Takes the tag off. A frame is refused when it is too short for the header that it claims to
have. -/
def splitTag (frame : Bytes) : Access Untagged :=
  if frame.length < 14 then .error .unsuited
  else do
    let kind ← frame.wordAt 12
    if kind ≠ tagKind then .ok ⟨none, frame⟩
    else if frame.length < 18 then .error .unsuited
    else do
      let control ← frame.wordAt 14
      let addresses ← frame.window 0 12
      let rest ← frame.window 16 frame.length
      return ⟨Vlan.ofControlWord? control, addresses ++ rest⟩

/-- A tag with priority zero. -/
def tag (vlan : Vlan) : Access Bytes :=
  Bytes.filled 4 [(0, Bytes.ofWord tagKind), (2, Bytes.ofWord vlan.id)]

/-- Puts a tag between the hardware addresses and the rest of a frame. -/
def insertTag (frame : Bytes) (vlan : Vlan) : Access Bytes := do
  let addresses ← frame.window 0 12
  let tag ← tag vlan
  let rest ← frame.window 12 frame.length
  return addresses ++ tag ++ rest

/-- Replaces the tag, or takes it off when there is no new one; what has no tag position stays as it
is. -/
def replaceTag (frame : Bytes) (vlan : Option Vlan) : Access Bytes :=
  match splitTag frame with
  | .error .unsuited => .ok frame
  | .error .outside => .error .outside
  | .ok untagged =>
    match vlan with
    | none => .ok untagged.frame
    | some vlan => insertTag untagged.frame vlan

def untag? (frame : Bytes) : Option Untagged :=
  (splitTag frame).toOption

def retag (frame : Bytes) (vlan : Option Vlan) : Bytes :=
  (replaceTag frame vlan).toOption.getD frame

end Neighbours.Frame
