import InfraDiagram.Document.Value

/-!
# Kinds of documents

A document says what it describes by the keys at its top level. The first marker that is present
decides; the markers of specific documents come before the generic ones.

## Main definitions

- `Kind` — what a document describes
- `markers` — the deciding keys in order of priority
- `classify` — the kind of a document
-/

namespace InfraDiagram

/-- What a document describes. -/
inductive Kind where
  /-- Sites and the links between them. -/
  | siteTopology
  /-- Racks with mounted equipment and cabling. -/
  | siteEquipment
  /-- Servers listed by the rack they are mounted in. -/
  | rackServers
  /-- Single servers in detail, with their ports. -/
  | serverDetails
  /-- A flat list of devices and connections. -/
  | topology
  /-- A single device. -/
  | device
  /-- A bare list of links. -/
  | links
  /-- A network intent. -/
  | intent
  /-- Nothing that is recognized. -/
  | unknown
  deriving DecidableEq, Repr, Inhabited

namespace Kind

def name : Kind → String
  | .siteTopology => "site_topology"
  | .siteEquipment => "site_equipment"
  | .rackServers => "rack_servers"
  | .serverDetails => "server_details"
  | .topology => "topology"
  | .device => "device"
  | .links => "links"
  | .intent => "intent"
  | .unknown => "unknown"

def isGeneric : Kind → Bool
  | .topology | .device | .links | .intent => true
  | _ => false

end Kind

def markers : List (String × Kind) :=
  [("sites", .siteTopology),
   ("rack_servers", .rackServers),
   ("server", .serverDetails),
   ("servers", .serverDetails),
   ("rack", .siteEquipment),
   ("racks", .siteEquipment),
   ("topology", .topology),
   ("device", .device),
   ("links", .links),
   ("intent", .intent)]

/-- The kind of a mapping: that of the first marker among its keys. -/
def classifyMapping (doc : Mapping) : Kind :=
  match markers.find? fun (key, _) => doc.contains key with
  | some (_, kind) => kind
  | none => .unknown

/-- The kind of a document; anything that is not a mapping is unknown. -/
def classify (doc : Value) : Kind :=
  (doc.mapping?.map classifyMapping).getD .unknown

end InfraDiagram
