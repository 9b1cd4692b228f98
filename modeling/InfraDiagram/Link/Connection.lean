import InfraDiagram.Diagram.Diagnostic
import InfraDiagram.Dot.Attrs
import InfraDiagram.Link.Endpoint

/-!
# Connections

Connection records of every kind as labelled and styled connections. A record without two ends is
left out and reported.

## Main definitions

- `Category`, `LineStyle`, `Connection` — decoded connections
- `CableCatalog` — the names of cable types
- `Connection.ofRecord` — one record
- `Connection.decodeList` — a list of records, with the problems found in it
- `Connection.ofEquipment` — all lists of an equipment document
-/

namespace InfraDiagram

open Dot

/-- The list that a record comes from, which decides about its label and style. -/
inductive Category where
  /-- Generic connections. -/
  | link
  /-- Links between sites. -/
  | site
  | power
  | data
  | optional
  /-- Flows of an intent. -/
  | flow
  deriving DecidableEq, Repr

/-- How the line of a connection is drawn. -/
inductive LineStyle where
  | solid
  | dashed
  | dotted
  /-- A data link that is switched off: dashed and grey. -/
  | inactive
  deriving DecidableEq, Repr

/-- A connection that can be drawn once its ends are found. -/
structure Connection where
  source : Endpoint
  target : Endpoint
  /-- Composed label lines. -/
  label : List String
  style : LineStyle
  category : Category
  /-- Where the record stands in its document. -/
  context : String
  deriving DecidableEq, Repr

/-- The table of cable types in a document. -/
structure CableCatalog where
  table : Option Mapping
  deriving Inhabited

namespace CableCatalog

def empty : CableCatalog := ⟨none⟩

def ofDocument (doc : Mapping) : CableCatalog :=
  ⟨(doc.get? "cable_types").bind Value.mapping?⟩

def defaultName : String := "ケーブル"

/-- The name of a record's cable: what the catalog says about its type, else the type itself,
    else the name in the record. -/
def describe (catalog : CableCatalog) (record : Mapping) : String :=
  match Field.firstText record ["cable_type", "cable"] with
  | some type =>
    let entry := (catalog.table.bind fun t => t.get? type).bind Value.mapping?
    (entry.bind fun e => Field.firstText e ["spec", "name"]).getD type
  | none => (Field.text record "name").getD defaultName

end CableCatalog

namespace Connection

def presentFields (record : Mapping) (fields : List String) : List String :=
  fields.filterMap (Field.text record)

/-- The label of a data link: cable, speed, number, purpose and range. -/
def dataLabel (record : Mapping) (catalog : CableCatalog) : String :=
  let piece (key before after : String) : String :=
    ((Field.text record key).map fun v => before ++ v ++ after).getD ""
  catalog.describe record ++ piece "speed" " " "" ++ piece "count" " (" "本)" ++
    piece "purpose" " [" "]" ++ piece "range" " (" ")"

def isInactive (record : Mapping) : Bool :=
  let off :=
    match record.get? "active" with
    | some (.bool false) => true
    | _ => false
  off || (Field.text record "status").any fun status =>
    Text.eqIgnoreAsciiCase status "inactive" || Text.eqIgnoreAsciiCase status "disabled"

def compose (record : Mapping) (category : Category) (catalog : CableCatalog) :
    List String × LineStyle :=
  match category with
  | .link => (presentFields record ["type", "bandwidth", "network", "description"], .solid)
  | .site => (presentFields record ["type", "bandwidth", "provider"], .solid)
  | .flow => (presentFields record ["action", "protocol", "bandwidth", "description"], .solid)
  | .power =>
    let count := (Field.text record "count").getD "1"
    ([catalog.describe record ++ " (" ++ count ++ "本)"], .dashed)
  | .data =>
    ([dataLabel record catalog], if isInactive record then .inactive else .solid)
  | .optional =>
    let condition := ((Field.text record "condition").map fun c => " [" ++ c ++ "]").getD ""
    ([dataLabel record catalog ++ condition], .dotted)

def powerColor : String := "#C62828"

def inactiveColor : String := "gray60"

def LineStyle.apply (style : LineStyle) (attrs : Attrs) : Attrs :=
  match style with
  | .solid => attrs
  | .dashed => attrs.raw "style" "dashed"
  | .dotted => attrs.raw "style" "dotted"
  | .inactive =>
    ((attrs.raw "style" "dashed").text "color" inactiveColor).text "fontcolor" inactiveColor

/-- The attributes of a connection's edge, apart from the labels at its ends. -/
def edgeAttrs (c : Connection) : Attrs :=
  let labelled :=
    if c.label.any fun line => !Text.isBlank line then Attrs.empty.lines "label" c.label
    else Attrs.empty
  let styled := LineStyle.apply c.style labelled
  if c.category = .power then styled.text "color" powerColor else styled

/-- An end of a record under the first of two keys that is present. -/
def end? (record : Mapping) (key other : String) : Option Endpoint :=
  ((record.get? key).or (record.get? other)).bind Endpoint.ofValue?

/-- The connection of a record, or what is wrong with the record. -/
def ofRecord (record : Value) (category : Category) (catalog : CableCatalog) (context : String) :
    Except Diagnostic Connection :=
  match record with
  | .mapping m =>
    match end? m "from" "source", end? m "to" "target" with
    | some source, some target =>
      let (label, style) := compose m category catalog
      .ok ⟨source, target, label, style, category, context⟩
    | none, _ => .error (.malformedConnection context "missing source endpoint `from`")
    | _, none => .error (.malformedConnection context "missing destination endpoint `to`")
  | other =>
    .error (.malformedConnection context ("expected mapping, found " ++ other.typeName))

/-- Connections and the problems of the records that give none. -/
structure Decoded where
  connections : List Connection
  problems : List Diagnostic
  deriving DecidableEq, Repr, Inhabited

def Decoded.empty : Decoded := ⟨[], []⟩

def Decoded.append (a b : Decoded) : Decoded :=
  ⟨a.connections ++ b.connections, a.problems ++ b.problems⟩

instance : Append Decoded := ⟨Decoded.append⟩

def Decoded.ofResult : Except Diagnostic Connection → Decoded
  | .ok c => ⟨[c], []⟩
  | .error d => ⟨[], [d]⟩

def decodeList (records : List Value) (category : Category) (path : Path)
    (catalog : CableCatalog) : Decoded :=
  (records.zipIdx.map fun (record, i) =>
    Decoded.ofResult (ofRecord record category catalog (path.index i).text)).foldr (· ++ ·) .empty

def equipmentLists : List (String × Category) :=
  [("connections", .link), ("power_connections", .power), ("data_connections", .data),
   ("optional_connections", .optional)]

def ofEquipment (doc : Mapping) (catalog : CableCatalog) : Except StructureError Decoded := do
  let lists ← equipmentLists.mapM fun (key, category) => do
    let records ← Field.list doc key .root
    return decodeList records category (Path.root.key key) catalog
  return lists.foldr (· ++ ·) .empty

end Connection

end InfraDiagram
