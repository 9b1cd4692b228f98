import InfraDiagram.Drawing.Plan

/-!
# Single devices

One device as a cluster with its ports stacked below it.

## Main definitions

- `Plan.device` — the plan for a single device
-/

namespace InfraDiagram

open Dot

def Device.anchorDeclaration (d : Device) : Declaration :=
  ⟨d.id, .device, d.id, d.lines false, Style.anchor⟩

/-- Draws a device in a frame of its own, with its ports below each other. -/
def Device.drawStack (d : Device) (options : RenderOptions) : Draw Placement :=
  inCluster d.id (Style.cluster none) do
    let anchor ← declare d.anchorDeclaration
    let ports ← if options.includePorts then d.drawPorts else pure []
    orderChain (anchor :: ports.map Prod.snd)
    return ⟨d.id, anchor, ports⟩

def Plan.device (doc : Mapping) (options : RenderOptions) : Plan :=
  match doc.get? "device" with
  | none | some .null => .nothing
  | some value => .ofScene do
    let device ← Device.ofValue value "device" 0 (Path.root.key "device") "device"
    let records ← Field.list doc "connections" .root
    return {
      nodes := do return [← device.drawStack options]
      resolver := .ofDevices [device]
      links := Connection.decodeList records .link (Path.root.key "connections") .empty
      portLinks := [] }

end InfraDiagram
