import InfraDiagram.Document.Value

/-!
# Diagnostics

Recoverable problems. A record that cannot be drawn is left out and reported, and the diagram is
drawn without it.

## Main definitions

- `Diagnostic` — one problem with its circumstances
- `Diagnostic.code`, `Diagnostic.message` — how it is reported to people
- `Diagnostic.toValue` — how it is reported to programs
-/

namespace InfraDiagram

/-- A problem that was found while drawing. -/
inductive Diagnostic where
  /-- No marker key is present; the diagram is empty. -/
  | unknownSchema (keys : List String)
  /-- An end of a connection matches no node. -/
  | unresolvedEndpoint (token reason context : String)
  /-- A connection record that is no mapping or lacks an end. -/
  | malformedConnection (context reason : String)
  /-- A logical key whose identifier was taken already. -/
  | identifierCollision (key base assigned : String)
  /-- An edge to or from an identifier that was never declared. -/
  | danglingEdge (source target : String)
  deriving DecidableEq, Repr

namespace Diagnostic

def code : Diagnostic → String
  | .unknownSchema _ => "E_UNKNOWN_SCHEMA"
  | .unresolvedEndpoint .. => "E_UNRESOLVED_ENDPOINT"
  | .malformedConnection .. => "E_MALFORMED_CONNECTION"
  | .identifierCollision .. => "E_IDENTIFIER_COLLISION"
  | .danglingEdge .. => "E_DANGLING_EDGE"

def message : Diagnostic → String
  | .unknownSchema keys =>
    "unrecognized document schema (top-level keys: " ++ ", ".intercalate keys ++ ")"
  | .unresolvedEndpoint token reason context =>
    "unresolved endpoint '" ++ token ++ "' at " ++ context ++ ": " ++ reason
  | .malformedConnection context reason =>
    "malformed connection record at " ++ context ++ ": " ++ reason
  | .identifierCollision key base assigned =>
    "identifier collision for '" ++ key ++ "': '" ++ base ++ "' already taken, using '" ++
      assigned ++ "'"
  | .danglingEdge source target =>
    "dropped edge " ++ source ++ " -> " ++ target ++ ": endpoint not declared"

def toValue : Diagnostic → Value
  | .unknownSchema keys =>
    .mapping [("kind", .text "unknown_schema"), ("keys", .list (keys.map .text))]
  | .unresolvedEndpoint token reason context =>
    .mapping [("kind", .text "unresolved_endpoint"), ("token", .text token),
      ("reason", .text reason), ("context", .text context)]
  | .malformedConnection context reason =>
    .mapping [("kind", .text "malformed_connection_record"), ("context", .text context),
      ("reason", .text reason)]
  | .identifierCollision key base assigned =>
    .mapping [("kind", .text "identifier_collision"), ("key", .text key), ("base", .text base),
      ("assigned", .text assigned)]
  | .danglingEdge source target =>
    .mapping [("kind", .text "dangling_edge"), ("from", .text source), ("to", .text target)]

end Diagnostic

end InfraDiagram
