import InfraDiagram.Document.Json.Parser
import InfraDiagram.Document.Yaml.ToValue

/-!
# Decoding documents

From the text of a file to a document value, by the format that the name of the file implies.

## Main definitions

- `Format.ofPath` — the format that a path implies
- `DecodeError` — why a text is no document
- `decode` — the document in a text

## Design notes

A text without a known format is JSON if it can be read as JSON, and YAML otherwise.
-/

namespace InfraDiagram

/-- A document format. -/
inductive Format where
  | json
  | yaml
  deriving DecidableEq, Repr

/-- The components of a path, without those that stand for the directory itself. -/
def pathComponents (path : String) : List String :=
  (path.splitToList (· = '/')).filter fun c => c != "" && c != "."

/-- The name of the file that a path leads to; a step upwards is no name. -/
def fileName? (path : String) : Option String :=
  (pathComponents path).getLast?.filter (· != "..")

/-- A file name divided at its last point; a point at the beginning does not count. -/
def splitName (name : String) : List Char × Option (List Char) :=
  let reversed := name.toList.reverse
  let extension := reversed.takeWhile (· != '.')
  match reversed.drop extension.length with
  | _ :: c :: rest => ((c :: rest).reverse, some extension.reverse)
  | _ => (name.toList, none)

def fileStem (name : String) : String :=
  String.ofList (splitName name).1

/-- The format that the extension of a file implies, in any case. -/
def Format.ofPath (path : String) : Option Format := do
  let name ← fileName? path
  let extension ← (splitName name).2
  match Text.toLowerAscii (String.ofList extension) with
  | "json" => some .json
  | "yaml" | "yml" => some .yaml
  | _ => none

/-- Why a text is no document. -/
inductive DecodeError where
  | json (error : Json.Error)
  | yaml (fault : Yaml.Fault)
  deriving DecidableEq, Repr

def decodeJson (text : String) : Except DecodeError Value :=
  (Json.parse text).mapError .json

def decodeYaml (text : String) : Except DecodeError Value :=
  ((Yaml.data text).mapError .yaml).map Yaml.Data.toValue

def decode (text : String) (format : Option Format) : Except DecodeError Value :=
  match format with
  | some .json => decodeJson text
  | some .yaml => decodeYaml text
  | none =>
    match Json.parse text with
    | .ok v => .ok v
    | .error _ => decodeYaml text

end InfraDiagram
