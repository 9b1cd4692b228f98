import InfraDiagram.Inventory.Field

/-!
# Ends of connections

## Main definitions

- `Endpoint` — the device that an end names, and the port on it
- `Endpoint.ofValue?` — an end from its document
-/

namespace InfraDiagram

/-- One end of a connection. -/
structure Endpoint where
  /-- A device id or a device type. -/
  device : String
  port : Option String
  deriving DecidableEq, Repr

namespace Endpoint

/-- A string or a number as it names a device; a string stays as it is. -/
def token? : Value → Option String
  | .text s => some s
  | .number n => some n.text
  | _ => none

/-- An end: a bare device token, or a mapping with a device and perhaps a port. -/
def ofValue? : Value → Option Endpoint
  | .text s => some ⟨s, none⟩
  | .number n => some ⟨n.text, none⟩
  | .mapping m =>
    (["device", "id", "node"].findSome? fun key => (Mapping.get? m key).bind token?).map fun device =>
      ⟨device, Field.firstText m ["port", "interface"]⟩
  | _ => none

end Endpoint

end InfraDiagram
