import InfraDiagram.Dot.Id

/-!
# Allocation of names

Identifiers must differ even where logical keys do not. A name that is taken gets the least number
from two upwards that makes it free.

## Main definitions

- `leastFree` — the least number from two upwards with a free name
- `IdPool` — the identities that were handed out
- `IdPool.allocate` — the identifier for a logical key

## Design notes

Among one more names than there are taken ones, at least one is free, so the search for a number
is bounded by the number of taken names.
-/

namespace InfraDiagram

/-- The least `n ≥ 2` for which `name n` is none of `taken`, searched among one more candidates
    than there are taken names. -/
def leastFree (taken : List String) (name : Nat → String) : Nat :=
  let candidates := (List.range (taken.length + 1)).map (· + 2)
  (candidates.find? fun n => !taken.contains (name n)).getD 2

/-- The canonical forms of the identifiers that were handed out. -/
structure IdPool where
  taken : List String
  deriving DecidableEq, Repr, Inhabited

namespace IdPool

def empty : IdPool := ⟨[]⟩

/-- The identifier for a key and whether it carries a number. -/
def choose (pool : IdPool) (key : String) : String × Bool :=
  let base := Dot.Id.ofName key
  if pool.taken.contains (Dot.Id.canonical base) then
    let n := leastFree pool.taken fun n => Dot.Id.canonical (Dot.Id.suffixed base n)
    (Dot.Id.suffixed base n, true)
  else (base, false)

def allocate (pool : IdPool) (key : String) : (String × Bool) × IdPool :=
  let chosen := pool.choose key
  (chosen, ⟨Dot.Id.canonical chosen.1 :: pool.taken⟩)

end IdPool

end InfraDiagram
