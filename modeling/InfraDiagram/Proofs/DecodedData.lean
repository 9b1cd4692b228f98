import Mathlib.Algebra.Group.Int.Defs
import InfraDiagram.Document.Yaml.Data
import InfraDiagram.Proofs.Agreement

/-!
# Data that texts decode to

Reading a text refuses a mapping in which a key is given twice, at every depth and behind every
alias. So the keys of a mapping that is delivered are pairwise different. Integers that do not fit
64 bits are refused as well, or read as fractions.

## Main definitions

- `Yaml.Data.mappings` — the mappings in data, at every depth
- `Yaml.Data.HasDistinctKeys` — no mapping has a key twice
- `Yaml.Data.NumbersFit` — integers fit 64 bits
- `Yaml.Data.IsInherited` — what holds of data as soon as it holds of its parts
- `Yaml.Expand.Yields` — what every result of an expansion satisfies

## Main statements

- `Yaml.Expand.Yields.bind`, `mapM`, `foldlM` — the rules for composed expansions
- `Yaml.Document.yields_shallow` — a node with its inner nodes
- `Yaml.gives_data` — what is inherited holds of the data of a text
- `Yaml.hasDistinctKeys_of_data`, `Yaml.numbersFit_of_data` — the data of a text
-/

namespace InfraDiagram.Yaml

-- ════════════════════════════════════════════════════════════════════════
-- Scalars
-- ════════════════════════════════════════════════════════════════════════

/-- Integers fit 64 bits, signed or unsigned. -/
def Number.Fits : Number → Prop
  | .int i => -2 ^ 63 ≤ i ∧ i < 2 ^ 64
  | _ => True

def Scalar.Fits : Scalar → Prop
  | .number n => n.Fits
  | _ => True

theorem fits_of_integer (cs : List Char) :
    Gives (integer cs) fun i? => ∀ i ∈ i?, (Number.int i).Fits := by
  unfold integer
  split
  · exact .ok fun _ h => nomatch h
  · split_ifs with hrange
    · refine .ok ?_
      rintro i ⟨⟩
      exact ⟨by exact_mod_cast hrange.1, by exact_mod_cast hrange.2⟩
    · exact .error _
    · exact .ok fun _ h => nomatch h

theorem fits_of_fraction? {cs : List Char} {n : Number} (h : fraction? cs = some n) : n.Fits := by
  have hfloat : ∀ x : Option Binary64, x.map Number.float = some n → n.Fits := by
    intro x hx
    obtain ⟨y, -, rfl⟩ := Option.map_eq_some_iff.1 hx
    trivial
  unfold fraction? at h
  dsimp only at h
  split_ifs at h
  · cases h
    trivial
  · cases h
    trivial
  · cases h
    trivial
  · split at h <;> exact hfloat _ h

theorem fits_of_ofPlain (text : String) : Gives (Scalar.ofPlain text) Scalar.Fits := by
  unfold Scalar.ofPlain
  dsimp only
  split_ifs
  · exact .ok trivial
  · split
    · exact .ok trivial
    · refine (fits_of_integer text.toList).bind fun i? hi => ?_
      split
      · exact .ok (hi _ rfl)
      · split
        · rename_i n hn
          exact .ok (fits_of_fraction? hn)
        · exact .ok trivial
  · split
    · exact .ok trivial
    · refine (fits_of_integer text.toList).bind fun i? hi => ?_
      split
      · exact .ok (hi _ rfl)
      · exact .ok trivial

theorem fits_of_ofTagged (tag text : String) : Gives (Scalar.ofTagged tag text) Scalar.Fits := by
  unfold Scalar.ofTagged
  dsimp only
  split_ifs
  · split
    · exact .ok trivial
    · exact .error _
  · refine (fits_of_integer text.toList).bind fun i? hi => ?_
    split
    · exact .ok (hi _ rfl)
    · exact .error _
  · split
    · rename_i n hn
      exact .ok (fits_of_fraction? hn)
    · exact .error _
  · exact .ok trivial
  · exact .error _
  · exact .ok trivial

-- ════════════════════════════════════════════════════════════════════════
-- Mappings in data
-- ════════════════════════════════════════════════════════════════════════

namespace Data

mutual

/-- The mappings in data, those inside of keys apart. -/
def mappings : Data → List (List (Data × Data))
  | .null | .bool _ | .number _ | .text _ => []
  | .sequence items => mappingsOfItems items
  | .mapping pairs => pairs :: mappingsOfPairs pairs
  | .tagged _ value => value.mappings

def mappingsOfItems : List Data → List (List (Data × Data))
  | [] => []
  | x :: rest => x.mappings ++ mappingsOfItems rest

def mappingsOfPairs : List (Data × Data) → List (List (Data × Data))
  | [] => []
  | (_, x) :: rest => x.mappings ++ mappingsOfPairs rest

end

theorem mem_mappingsOfItems {items : List Data} {pairs : List (Data × Data)} :
    pairs ∈ mappingsOfItems items ↔ ∃ x ∈ items, pairs ∈ x.mappings := by
  induction items with
  | nil => simp [mappingsOfItems]
  | cons x rest ih => simp [mappingsOfItems, ih]

theorem mem_mappingsOfPairs {outer pairs : List (Data × Data)} :
    pairs ∈ mappingsOfPairs outer ↔ ∃ pair ∈ outer, pairs ∈ pair.2.mappings := by
  induction outer with
  | nil => simp [mappingsOfPairs]
  | cons pair rest ih =>
    obtain ⟨k, x⟩ := pair
    simp [mappingsOfPairs, ih]

/-- No key is the same as an earlier one. -/
def AreDistinct (pairs : List (Data × Data)) : Prop :=
  pairs.Pairwise fun earlier later => same later.1 earlier.1 = false

/-- No mapping has a key twice. -/
def HasDistinctKeys (d : Data) : Prop :=
  ∀ pairs ∈ d.mappings, AreDistinct pairs

theorem HasDistinctKeys.ofScalar (s : Scalar) : (Data.ofScalar s).HasDistinctKeys := by
  intro pairs h
  cases s <;> cases h

theorem HasDistinctKeys.sequence {items : List Data} (h : ∀ x ∈ items, x.HasDistinctKeys) :
    (Data.sequence items).HasDistinctKeys := by
  intro pairs hpairs
  obtain ⟨x, hx, hmem⟩ := mem_mappingsOfItems.1 hpairs
  exact h x hx pairs hmem

theorem HasDistinctKeys.mapping {pairs : List (Data × Data)} (hpairs : AreDistinct pairs)
    (h : ∀ pair ∈ pairs, pair.2.HasDistinctKeys) : (Data.mapping pairs).HasDistinctKeys := by
  intro inner hinner
  obtain rfl | hinner := List.mem_cons.1 hinner
  · exact hpairs
  · obtain ⟨pair, hpair, hmem⟩ := mem_mappingsOfPairs.1 hinner
    exact h pair hpair inner hmem

mutual

/-- Integers fit 64 bits, those in keys included. -/
def NumbersFit : Data → Prop
  | .null | .bool _ | .text _ => True
  | .number n => n.Fits
  | .sequence items => NumbersFitInItems items
  | .mapping pairs => NumbersFitInPairs pairs
  | .tagged _ value => value.NumbersFit

def NumbersFitInItems : List Data → Prop
  | [] => True
  | x :: rest => x.NumbersFit ∧ NumbersFitInItems rest

def NumbersFitInPairs : List (Data × Data) → Prop
  | [] => True
  | (k, x) :: rest => (k.NumbersFit ∧ x.NumbersFit) ∧ NumbersFitInPairs rest

end

theorem numbersFitInItems_iff {items : List Data} :
    NumbersFitInItems items ↔ ∀ x ∈ items, x.NumbersFit := by
  induction items with
  | nil => simp [NumbersFitInItems]
  | cons x rest ih => rw [NumbersFitInItems, List.forall_mem_cons, ih]

theorem numbersFitInPairs_iff {pairs : List (Data × Data)} :
    NumbersFitInPairs pairs ↔ ∀ pair ∈ pairs, pair.1.NumbersFit ∧ pair.2.NumbersFit := by
  induction pairs with
  | nil => simp [NumbersFitInPairs]
  | cons pair rest ih => rw [NumbersFitInPairs, List.forall_mem_cons, ih]

/-- What holds of data as soon as it holds of the parts: of scalars, of sequences, of mappings
    without repeated keys, and of anything under a tag. -/
structure IsInherited (P : Data → Prop) : Prop where
  scalar : ∀ {s : Scalar}, s.Fits → P (ofScalar s)
  sequence : ∀ {items : List Data}, (∀ x ∈ items, P x) → P (.sequence items)
  mapping : ∀ {pairs : List (Data × Data)}, AreDistinct pairs →
    (∀ pair ∈ pairs, P pair.1 ∧ P pair.2) → P (.mapping pairs)
  tagged : ∀ {tag : String} {x : Data}, P x → P (.tagged tag x)

theorem isInherited_hasDistinctKeys : IsInherited HasDistinctKeys where
  scalar _ := .ofScalar _
  sequence h := .sequence h
  mapping hpairs h := .mapping hpairs fun pair hpair => (h pair hpair).2
  tagged h := h

theorem isInherited_numbersFit : IsInherited NumbersFit where
  scalar {s} h := by
    cases s with
    | number n => exact h
    | null | bool | text => trivial
  sequence h := numbersFitInItems_iff.2 h
  mapping _ h := numbersFitInPairs_iff.2 h
  tagged h := h

/-- What has been read of a mapping, the last pair first. -/
structure IsSeen (P : Data → Prop) (seen : List (Data × Data)) : Prop where
  distinct : AreDistinct seen.reverse
  parts : ∀ pair ∈ seen, P pair.1 ∧ P pair.2

variable {P : Data → Prop}

theorem IsSeen.nil : IsSeen P [] :=
  ⟨.nil, fun _ h => nomatch h⟩

theorem IsSeen.cons {seen : List (Data × Data)} (h : IsSeen P seen) {key value : Data}
    (hnew : ¬ (seen.any fun (l, _) => same key l) = true) (hkey : P key) (hvalue : P value) :
    IsSeen P ((key, value) :: seen) where
  distinct := by
    rw [List.reverse_cons, AreDistinct, List.pairwise_append]
    refine ⟨h.distinct, List.pairwise_singleton _ _, fun earlier hearlier later hlater => ?_⟩
    obtain rfl := List.mem_singleton.1 hlater
    exact (Bool.not_eq_true _).mp fun hsame =>
      hnew (List.any_eq_true.2 ⟨earlier, List.mem_reverse.1 hearlier, hsame⟩)
  parts := List.forall_mem_cons.2 ⟨⟨hkey, hvalue⟩, h.parts⟩

theorem IsInherited.of_isSeen (hP : IsInherited P) {seen : List (Data × Data)}
    (h : IsSeen P seen) : P (.mapping seen.reverse) :=
  hP.mapping h.distinct fun pair hpair => h.parts pair (List.mem_reverse.1 hpair)

end Data

-- ════════════════════════════════════════════════════════════════════════
-- Expansions
-- ════════════════════════════════════════════════════════════════════════

/-- Whatever an expansion results in, however many aliases were followed before, satisfies a
    predicate. -/
def Expand.Yields {α : Type} (m : Expand α) (P : α → Prop) : Prop :=
  ∀ followed result, m.run followed = .ok result → P result.1

namespace Expand.Yields

variable {α β : Type} {P : α → Prop} {Q : β → Prop}

theorem pure {a : α} (h : P a) : Yields (Pure.pure a) P := by
  intro followed result hrun
  obtain rfl := Except.ok.inj hrun
  exact h

theorem throw (f : Fault) : Yields (throw f : Expand α) P :=
  fun _ _ hrun => nomatch hrun

theorem lift {e : Except Fault α} (h : Gives e P) : Yields (liftM e : Expand α) P := by
  intro followed result hrun
  cases e with
  | error f => cases hrun
  | ok a =>
    obtain rfl := Except.ok.inj hrun
    exact h a rfl

theorem bind {m : Expand α} {f : α → Expand β} (h : Yields m P)
    (hf : ∀ a, P a → Yields (f a) Q) : Yields (m >>= f) Q := by
  intro followed result hrun
  rw [StateT.run_bind] at hrun
  cases hm : m.run followed with
  | error e =>
    rw [hm] at hrun
    cases hrun
  | ok first =>
    rw [hm] at hrun
    exact hf first.1 (h followed first hm) first.2 result hrun

theorem any (m : Expand α) : Yields m fun _ => True :=
  fun _ _ _ => trivial

theorem mapM {xs : List β} {f : β → Expand α} (h : ∀ x, Yields (f x) P) :
    Yields (xs.mapM f) fun ys => ∀ y ∈ ys, P y := by
  induction xs with
  | nil => exact pure fun y hy => nomatch hy
  | cons x xs ih =>
    rw [List.mapM_cons]
    refine bind (h x) fun y hy => bind ih fun ys hys => pure fun z hz => ?_
    obtain rfl | hz := List.mem_cons.1 hz
    · exact hy
    · exact hys z hz

theorem foldlM {xs : List β} {f : α → β → Expand α} (h : ∀ a x, P a → Yields (f a x) P) {a : α}
    (ha : P a) : Yields (xs.foldlM f a) P := by
  induction xs generalizing a with
  | nil => exact pure ha
  | cons x xs ih =>
    rw [List.foldlM_cons]
    exact bind (h a x ha) fun b hb => ih hb

end Expand.Yields

-- ════════════════════════════════════════════════════════════════════════
-- Documents
-- ════════════════════════════════════════════════════════════════════════

namespace Document

open Expand Data

variable {P : Data → Prop}

theorem gives_underTag (hP : IsInherited P) (tag : Option String) {d : Data} (hd : P d) :
    Gives (underTag tag d) P := by
  unfold underTag
  split
  · exact .error _
  · exact .ok (hP.tagged hd)
  · exact .ok hd

theorem gives_scalarData (hP : IsInherited P) (tag : Option String) (plain : Bool)
    (text : String) : Gives (scalarData tag plain text) P := by
  have hscalar : ∀ read : Except Fault Scalar, Gives read Scalar.Fits →
      Gives (read >>= fun s => underTag tag (.ofScalar s)) P := fun _ h =>
    h.bind fun _ hs => gives_underTag hP tag (hP.scalar hs)
  unfold scalarData
  dsimp only
  split
  · exact hscalar _ (fits_of_ofTagged _ _)
  · split_ifs
    · exact hscalar _ (fits_of_ofPlain _)
    · exact hscalar _ (.ok trivial)

/-- A node whose inner nodes satisfy what is inherited satisfies it itself. -/
theorem yields_shallow (hP : IsInherited P) {inner : Option (Node → Expand Data)}
    (hinner : ∀ expand ∈ inner, ∀ n, Yields (expand n) P) (n : Node) :
    Yields (shallow inner n) P := by
  unfold shallow
  split
  · exact .lift (gives_scalarData hP _ _ _)
  · rename_i tag items expand
    exact (Yields.mapM (hinner expand rfl)).bind fun xs hxs =>
      .lift (gives_underTag hP tag (hP.sequence hxs))
  · rename_i tag pairs expand
    have hexpand : ∀ n, Yields (expand n) P := hinner expand rfl
    refine (Yields.foldlM ?_ IsSeen.nil).bind fun seen hseen =>
      .lift (gives_underTag hP tag (hP.of_isSeen hseen))
    rintro seen ⟨k, v⟩ hseen
    refine (hexpand k).bind fun key hkey => ?_
    split
    · exact .throw _
    · rename_i hnew
      exact (hexpand v).bind fun value hvalue => .pure (hseen.cons hnew hkey hvalue)
  · exact .throw _

theorem yields_expand (hP : IsInherited P) (d : Document) (depth : Nat) (n : Node) :
    Yields (d.expand depth n) P := by
  induction depth generalizing n with
  | zero => exact (Yields.any _).bind fun n _ => yields_shallow hP (by simp) n
  | succ depth ih =>
    refine (Yields.any _).bind fun n _ => yields_shallow hP ?_ n
    rintro expand ⟨⟩
    exact ih

theorem gives_data (hP : IsInherited P) (document : Document) : Gives document.data P := by
  refine Gives.bind (P := fun result => P result.1) ?_ fun result hresult => .ok hresult
  exact document.yields_expand hP _ _ 0

end Document

theorem gives_data {P : Data → Prop} (hP : Data.IsInherited P) (text : String) :
    Gives (data text) P := by
  refine (Gives.any _).bind fun document _ => ?_
  cases document with
  | none => exact .ok (hP.scalar (s := .null) trivial)
  | some document => exact document.gives_data hP

/-- **The data of a text has no key twice.** -/
theorem hasDistinctKeys_of_data {text : String} {d : Data} (h : data text = .ok d) :
    d.HasDistinctKeys :=
  gives_data Data.isInherited_hasDistinctKeys text d h

/-- **The integers in the data of a text fit 64 bits.** -/
theorem numbersFit_of_data {text : String} {d : Data} (h : data text = .ok d) : d.NumbersFit :=
  gives_data Data.isInherited_numbersFit text d h

end InfraDiagram.Yaml
