import InfraDiagram.Diagram.Canvas

/-!
# Layout

Diagrams carry no coordinates. Nodes are put below each other by invisible edges between
neighbours, and next to each other by the common rank.

## Main definitions

- `orderChain` — nodes below each other
- `sideBySide` — nodes next to each other
-/

namespace InfraDiagram

def neighbours {α : Type} (xs : List α) : List (α × α) :=
  xs.zip xs.tail

def orderChain (ids : List String) : Draw Unit :=
  (neighbours ids).forM fun (above, below) => orderingEdge above below

/-- Puts nodes on the common rank; a single node needs none. -/
def sideBySide (ids : List String) : Draw Unit :=
  if 1 < ids.length then sameRank ids else pure ()

end InfraDiagram
