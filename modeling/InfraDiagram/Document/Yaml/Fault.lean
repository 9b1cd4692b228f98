/-!
# Faults in YAML texts

## Main definitions

- `Yaml.Fault` — why a text is not a YAML document that can be decoded
-/

namespace InfraDiagram.Yaml

/-- Why a text cannot be decoded. -/
inductive Fault where
  /-- A character that no document may hold. -/
  | forbiddenCharacter
  /-- A character that begins nothing. -/
  | strayCharacter
  /-- An entry, a key or a value where the indentation allows none. -/
  | misplaced
  /-- A tab where spaces must indent. -/
  | tabIndentation
  /-- A key without its colon. -/
  | missingColon
  /-- A quoted text that does not end, or that runs into a document marker. -/
  | unclosedText
  | badEscape
  | badDirective
  | badAnchor
  | badTag
  /-- A header of a block text that is not understood. -/
  | badHeader
  /-- A colon in a plain text of a flow collection that could be meant either way. -/
  | ambiguousColon
  /-- A token that does not fit where it stands. -/
  | unexpectedToken
  | unknownAnchor
  | severalDocuments
  | tooDeep
  /-- Aliases that expand a document beyond measure. -/
  | tooManyAliases
  | duplicateKey
  /-- A text that is not of the type that its tag names. -/
  | typeMismatch
  /-- An integer beyond 64 bits. -/
  | integerRange
  deriving DecidableEq, Repr

end InfraDiagram.Yaml
