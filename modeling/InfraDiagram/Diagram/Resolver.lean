import InfraDiagram.Diagram.Canvas
import InfraDiagram.Inventory.Device

/-!
# Finding the ends of connections

A connection names its ends by tokens. A token is the key of a node that was drawn, or the type of
a device, which then stands for the first device of that type.

## Main definitions

- `isPlaceholder` — tokens that name nothing
- `Resolver` — the devices that may be named by their types
- `Resolver.resolve` — the node that a token names
-/

namespace InfraDiagram

/-- White space and the word `undefined` name nothing. -/
def isPlaceholder (token : String) : Bool :=
  Text.trim token == "" || Text.trim token == "undefined"

/-- Why a token names no node. -/
inductive Unresolved where
  | placeholder
  | noMatch
  /-- There is a device of that type, but it was not drawn. -/
  | typeNotDrawn
  deriving DecidableEq, Repr

def Unresolved.reason : Unresolved → String
  | .placeholder => "empty or placeholder endpoint"
  | .noMatch => "no node with this id and no device of this type"
  | .typeNotDrawn => "device of this type was not emitted"

/-- The node that a token names and the key under which it was found. -/
structure Resolved where
  graphId : String
  key : String
  deriving DecidableEq, Repr

/-- The devices of a document, by id and type, in document order. -/
structure Resolver where
  candidates : List (String × String)
  deriving DecidableEq, Repr

namespace Resolver

def ofDevices (devices : List Device) : Resolver :=
  ⟨devices.map fun d => (d.id, d.type)⟩

/-- The node that a token names on a canvas: the device declared first under it, else any node
    under it, else the first candidate of that type. -/
def resolve (r : Resolver) (token : String) (c : Canvas) : Except Unresolved Resolved :=
  if isPlaceholder token then .error .placeholder
  else
    let name := Text.trim token
    match (c.lookupDevice name).or (c.lookup name) with
    | some id => .ok ⟨id, name⟩
    | none =>
      match r.candidates.find? fun (_, type) => type == name with
      | none => .error .noMatch
      | some (deviceId, _) =>
        match c.lookupDevice deviceId with
        | some id => .ok ⟨id, deviceId⟩
        | none => .error .typeNotDrawn

end Resolver

end InfraDiagram
