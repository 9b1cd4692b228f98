import InfraDiagram.Text.CharClass

/-!
# Rendering options

What a caller may choose about a diagram: its name, its direction, its font, and whether ports are
drawn.

## Main definitions

- `RankDir` — the direction in which ranks follow each other
- `RankDir.parse` — the direction for a text, in any case and with white space around it
- `RenderOptions` — all choices, with `RenderOptions.standard` for none made
-/

namespace InfraDiagram.Dot

/-- The direction in which ranks follow each other. -/
inductive RankDir where
  | topBottom
  | leftRight
  | bottomTop
  | rightLeft
  deriving DecidableEq, Repr, Inhabited

/-- A text that names no direction. -/
structure UnknownRankDir where
  raw : String
  deriving DecidableEq, Repr

/-- The wording of an unknown direction, with the text as it was given. -/
def UnknownRankDir.message (e : UnknownRankDir) : String :=
  "unknown rankdir '" ++ e.raw ++ "' (expected TB, LR, BT or RL)"

namespace RankDir

def word : RankDir → String
  | .topBottom => "TB"
  | .leftRight => "LR"
  | .bottomTop => "BT"
  | .rightLeft => "RL"

def all : List RankDir :=
  [.topBottom, .leftRight, .bottomTop, .rightLeft]

/-- The direction whose word the text is, up to case and surrounding white space. -/
def parse (raw : String) : Except UnknownRankDir RankDir :=
  match all.find? fun d => Text.toUpperAscii (Text.trim raw) == d.word with
  | some d => .ok d
  | none => .error ⟨raw⟩

end RankDir

/-- The choices of a caller. -/
structure RenderOptions where
  /-- The name of the graph; it becomes an identifier like any other name. -/
  graphName : String
  rankDir : RankDir
  font : String
  /-- Whether ports are drawn as nodes. -/
  includePorts : Bool
  deriving DecidableEq, Repr

def RenderOptions.standard : RenderOptions :=
  ⟨"topology", .topBottom, "Helvetica", true⟩

instance : Inhabited RenderOptions := ⟨.standard⟩

end InfraDiagram.Dot
