import InfraDiagram.Drawing.Plan

/-!
# Bare links

A list of links without racks or servers. The nodes are those that the links name; a list of
devices may say more about them.

## Main definitions

- `Implied` — a node that an end of a link stands for
- `impliedNodes` — the nodes of all links
- `Plan.links` — the plan for a list of links
-/

namespace InfraDiagram

/-- A node that an end stands for: its key, and the device it is if one is listed. -/
structure Implied where
  key : String
  device : Option Device
  deriving DecidableEq, Repr

/-- The device that a token means: the last one with that id, else the first one of that type. -/
def knownDevice? (known : List Device) (token : String) : Option Device :=
  (known.reverse.find? fun d => d.id == token).or (known.find? fun d => d.type == token)

/-- The node that a token stands for; a placeholder stands for none. -/
def implied? (known : List Device) (raw : String) : Option Implied :=
  let token := Text.trim raw
  if isPlaceholder token then none
  else
    match knownDevice? known token with
    | some d => some ⟨d.id, some d⟩
    | none => some ⟨token, none⟩

/-- A list of nodes with another one at its end, unless its key is there already. -/
def addImplied (nodes : List Implied) (n : Implied) : List Implied :=
  if nodes.any fun m => m.key == n.key then nodes else nodes ++ [n]

/-- The nodes that the ends of links stand for, in the order in which they first appear. -/
def impliedNodes (known : List Device) (links : List Connection) : List Implied :=
  let tokens := links.flatMap fun l => [l.source.device, l.target.device]
  (tokens.filterMap (implied? known)).foldl addImplied []

def Implied.declaration (n : Implied) : Declaration :=
  match n.device with
  | some d => d.declaration .device false
  | none => ⟨n.key, .device, n.key, [n.key], Style.device ""⟩

def drawImplied (nodes : List Implied) : Draw (List Placement) :=
  nodes.mapM fun n => do
    let node ← declare n.declaration
    return ⟨n.declaration.key, node, []⟩

def Plan.links (doc : Mapping) : Plan :=
  .ofScene do
    let records ← Field.list doc "links" .root
    let known ← Device.listIn doc ["devices"] "device" .root "device"
    let links := Connection.decodeList records .link (Path.root.key "links") .empty
    return {
      nodes := drawImplied (impliedNodes known links.connections)
      resolver := .ofDevices known
      links := links
      portLinks := [] }

end InfraDiagram
