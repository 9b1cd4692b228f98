import InfraDiagram.Text.Escaped

/-!
# Attribute lists

The attributes of a node, an edge or a cluster, in the order in which they were first set. Setting
an attribute again replaces its value in place.

## Main definitions

- `Attrs` — attribute names with their values in final form
- `Attrs.raw`, `Attrs.text`, `Attrs.lines` — the three ways to set a value
- `Attrs.merge` — one list laid over another
- `Attrs.get?` — the value of an attribute

## Design notes

Values are stored as they are printed: `raw` takes a DOT word, `text` and `lines` quote.
-/

namespace InfraDiagram.Dot

/-- Attribute names and their printed values in order. -/
structure Attrs where
  entries : List (String × String)
  deriving DecidableEq, Inhabited

namespace Attrs

def empty : Attrs := ⟨[]⟩

/-- A list of pairs with one key set: in its place if it is there, at the end if not. -/
def setIn (key value : String) : List (String × String) → List (String × String)
  | [] => [(key, value)]
  | (k, v) :: rest => if k = key then (k, value) :: rest else (k, v) :: setIn key value rest

def set (attrs : Attrs) (key value : String) : Attrs :=
  ⟨setIn key value attrs.entries⟩

/-- Sets an attribute whose value is a DOT word, such as `box` or `2`. -/
def raw (attrs : Attrs) (key value : String) : Attrs :=
  attrs.set key value

def text (attrs : Attrs) (key value : String) : Attrs :=
  attrs.set key ("\"" ++ Text.escapeLabel value ++ "\"")

/-- Sets an attribute to a quoted text of several lines; blank lines are left out. -/
def lines (attrs : Attrs) (key : String) (values : List String) : Attrs :=
  attrs.set key ("\"" ++ Text.escapeLines values ++ "\"")

def merge (attrs later : Attrs) : Attrs :=
  later.entries.foldl (fun acc (k, v) => acc.set k v) attrs

def get? (attrs : Attrs) (key : String) : Option String :=
  attrs.entries.lookup key

def isEmpty (attrs : Attrs) : Bool :=
  attrs.entries.isEmpty

end Attrs

end InfraDiagram.Dot
