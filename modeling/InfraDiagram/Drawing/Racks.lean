import InfraDiagram.Drawing.Plan
import InfraDiagram.Inventory.Site

/-!
# Rack diagrams

Racks side by side, with their devices and the cabling between them: the equipment of a site, and
servers listed by rack.

## Main definitions

- `drawRacks` — a cluster for each rack
- `Plan.siteEquipment`, `Plan.rackServers` — the plans for the two kinds of documents
-/

namespace InfraDiagram

open Dot

def drawRacks (racks : List Rack) (entity : EntityType) (options : RenderOptions) :
    Draw (List RackPlacement) :=
  racks.mapM fun rack => rack.draw entity options

def Resolver.ofRacks (racks : List Rack) : Resolver :=
  .ofDevices (racks.flatMap (·.devices))

/-- Draws racks side by side, within the frame of their site if there is one. -/
def drawRackDiagram (site : Option Site) (racks : List Rack) (entity : EntityType)
    (options : RenderOptions) : Draw (List Placement) := do
  let drawn ←
    match site with
    | some s =>
      inCluster ("site_" ++ s.id) (Style.cluster (some s.label)) (drawRacks racks entity options)
    | none => drawRacks racks entity options
  sideBySide (drawn.map (·.anchor))
  return drawn.flatMap (·.devices)

def Plan.siteEquipment (doc : Mapping) (options : RenderOptions) : Plan :=
  .ofScene do
    let racks ← Rack.ofDocument doc
    let site ← Site.header doc
    let cabling ← Connection.ofEquipment doc (.ofDocument doc)
    return {
      nodes := drawRackDiagram site racks .device options
      resolver := .ofRacks racks
      links := cabling
      portLinks := [] }

def Plan.rackServers (doc : Mapping) (options : RenderOptions) : Plan :=
  .ofScene do
    let racks ← Rack.ofServerDocument doc
    let cabling ← Connection.ofEquipment doc (.ofDocument doc)
    return {
      nodes := drawRackDiagram none racks .server options
      resolver := .ofRacks racks
      links := cabling
      portLinks := [] }

end InfraDiagram
