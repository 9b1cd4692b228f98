/-!
# Tokens of YAML texts

## Main definitions

- `Yaml.Token` — the pieces that a text is divided into
-/

namespace InfraDiagram.Yaml

/-- A piece of a text. Block collections have no characters of their own, so their tokens stand
    for changes of the indentation. -/
inductive Token where
  | versionDirective (major minor : Nat)
  | tagDirective (handle target : String)
  | documentStart
  | documentEnd
  | blockSequenceStart
  | blockMappingStart
  | blockEnd
  | flowSequenceStart
  | flowSequenceEnd
  | flowMappingStart
  | flowMappingEnd
  | blockEntry
  | flowEntry
  | key
  | value
  | aliasName (name : String)
  | anchor (name : String)
  | tag (handle suffix : String)
  | scalar (plain : Bool) (text : String)
  | streamEnd
  deriving DecidableEq, Repr, Inhabited

end InfraDiagram.Yaml
