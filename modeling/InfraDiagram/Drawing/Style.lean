import InfraDiagram.Dot.Attrs

/-!
# Styles

The attributes of everything that is drawn.

## Main definitions

- `Style.device` — nodes of devices, by type
- `Style.anchor`, `Style.port`, `Style.peer`, `Style.site`, `Style.intent` — other nodes
- `Style.cluster` — frames, with or without a label
- `Style.portLink` — the line from a device to its port
-/

namespace InfraDiagram.Style

open Dot

def shapeAndFill : String → String × String
  | "server" => ("box", "#E3F2FD")
  | "server_group" => ("box3d", "#BBDEFB")
  | "switch" | "spine" | "leaf" => ("box", "#C8E6C9")
  | "router" => ("box", "#FFE0B2")
  | "firewall" => ("box", "#FFCDD2")
  | "storage" => ("cylinder", "#E1BEE7")
  | "pdu" | "ups" => ("box", "#FFF9C4")
  | "load_balancer" | "lb" => ("box", "#D1C4E9")
  | "patch_panel" => ("box", "#F5F5F5")
  | _ => ("box", "#ECEFF1")

def device (type : String) : Attrs :=
  let (shape, fill) := shapeAndFill (Text.toLowerAscii type)
  (Attrs.empty.raw "shape" shape).text "fillcolor" fill

/-- The node that stands for a rack, a server or a device as a whole. -/
def anchor : Attrs :=
  (((Attrs.empty.raw "shape" "box").text "style" "filled,bold").text "fillcolor" "#37474F").text
    "fontcolor" "#FFFFFF"

def port : Attrs :=
  ((Attrs.empty.raw "shape" "box").raw "fontsize" "8").text "fillcolor" "#FAFAFA"

def peer (type : String) : Attrs :=
  (device type).text "style" "filled,dashed"

def site : Attrs :=
  (Attrs.empty.raw "shape" "box3d").text "fillcolor" "#E8EAF6"

def intent : Attrs :=
  (Attrs.empty.raw "shape" "note").text "fillcolor" "#FFF9C4"

def cluster (label : Option String) : Attrs :=
  let plain := (Attrs.empty.text "style" "rounded").text "color" "#607D8B"
  match label with
  | some label => plain.text "label" label
  | none => plain

def portLink : Attrs :=
  ((Attrs.empty.raw "dir" "none").raw "style" "dotted").text "color" "#9E9E9E"

end InfraDiagram.Style
