import InfraDiagram.Document.Value

/-!
# The node map

The map from logical keys to the nodes of a diagram, by which a viewer finds the entity behind a
node. It is kept in the order of its keys.

## Main definitions

- `EntityType`, `NodeRef` — what a node stands for
- `NodeMap` — entries in increasing order of their keys
- `NodeMap.find?`, `NodeMap.insert`, `NodeMap.erase` — look-up and change
- `NodeMap.toValue` — the map as a document value

## Design notes

Keys compare by their characters' code points, which is also the order of their UTF-8 bytes.
-/

namespace InfraDiagram

/-- What a node stands for in the document. -/
inductive EntityType where
  | site
  | rack
  | device
  | server
  | port
  | peer
  | intent
  deriving DecidableEq, Repr, Inhabited

namespace EntityType

def word : EntityType → String
  | .site => "site"
  | .rack => "rack"
  | .device => "device"
  | .server => "server"
  | .port => "port"
  | .peer => "peer"
  | .intent => "intent"

def all : List EntityType :=
  [.site, .rack, .device, .server, .port, .peer, .intent]

def ofWord? (w : String) : Option EntityType :=
  all.find? fun t => t.word == w

/-- The entities that the ends of connections name. -/
def isDevice : EntityType → Bool
  | .device | .server | .peer => true
  | _ => false

end EntityType

/-- A node and the entity it stands for. -/
structure NodeRef where
  graphNodeId : String
  entityType : EntityType
  sourceId : String
  label : String
  deriving DecidableEq, Repr, Inhabited

def NodeRef.toValue (r : NodeRef) : Value :=
  .mapping [("graphNodeId", .text r.graphNodeId), ("entityType", .text r.entityType.word),
    ("sourceId", .text r.sourceId), ("label", .text r.label)]

/-- Nodes by logical key, in increasing order of the keys. -/
structure NodeMap where
  entries : List (String × NodeRef)
  deriving DecidableEq, Repr, Inhabited

namespace NodeMap

def empty : NodeMap := ⟨[]⟩

def find? (m : NodeMap) (key : String) : Option NodeRef :=
  m.entries.lookup key

def contains (m : NodeMap) (key : String) : Bool :=
  (m.find? key).isSome

def insertIn (key : String) (ref : NodeRef) : List (String × NodeRef) → List (String × NodeRef)
  | [] => [(key, ref)]
  | (k, r) :: rest =>
    if k = key then (key, ref) :: rest
    else if key < k then (key, ref) :: (k, r) :: rest
    else (k, r) :: insertIn key ref rest

def insert (m : NodeMap) (key : String) (ref : NodeRef) : NodeMap :=
  ⟨insertIn key ref m.entries⟩

def erase (m : NodeMap) (key : String) : NodeMap :=
  ⟨m.entries.filter fun (k, _) => k != key⟩

def toValue (m : NodeMap) : Value :=
  .mapping (m.entries.map fun (k, r) => (k, r.toValue))

end NodeMap

end InfraDiagram
