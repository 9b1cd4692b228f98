import InfraDiagram.Drawing.Plan
import InfraDiagram.Inventory.Site

/-!
# Site topologies

Sites as nodes and the links between them as labelled edges.

## Main definitions

- `Site.declaration` — the node of a site
- `Plan.sites` — the plan for a site topology
-/

namespace InfraDiagram

def Site.declaration (s : Site) : Declaration :=
  let capacity := s.capacity.toList.map fun c => "capacity: " ++ c
  ⟨s.id, .site, s.id, s.label :: (s.address.toList ++ capacity), Style.site⟩

def drawSites (sites : List Site) : Draw (List Placement) :=
  sites.mapM fun s => do
    let node ← declare s.declaration
    return ⟨s.id, node, []⟩

/-- The resolver for sites, which links may name by their types. -/
def Resolver.ofSites (sites : List Site) : Resolver :=
  ⟨sites.map fun s => (s.id, s.type.getD "")⟩

def Plan.sites (doc : Mapping) : Plan :=
  .ofScene do
    let sites ← Site.ofDocument doc
    let records ← Field.list doc "connections" .root
    return {
      nodes := drawSites sites
      resolver := .ofSites sites
      links := Connection.decodeList records .site (Path.root.key "connections") .empty
      portLinks := [] }

end InfraDiagram
