import InfraDiagram.Inventory.Site
import InfraDiagram.Proofs.Revisions

/-!
# Reordered values

The members of a mapping are looked up by their keys, so their order does not matter to whoever
reads an entity or a connection record. This holds at any depth: values that are equal up to the
order of members describe the same entities, with the same errors.

## Main definitions

- `Value.Reordered` — values that are equal up to the order of members at any depth
- `Mapping.Shuffled` — mappings with the same keys, and reordered values under each of them

## Main statements

- `Value.Reordered.shuffled` — reordered mappings are looked up alike
- `Device.ofValue_reordered`, `Rack.ofValue_reordered`, … — entities are read alike
- `Connection.ofRecord_reordered` — connection records are decoded alike

## Design notes

A document is only ever read to a fixed depth, so nothing here is an induction over values. Each
reader looks at one level and hands on what it finds there.
-/

namespace InfraDiagram

open Connection

-- ════════════════════════════════════════════════════════════════════════
-- Values
-- ════════════════════════════════════════════════════════════════════════

mutual

/-- The values are equal up to the order of the members of mappings at any depth. -/
inductive Value.Reordered : Value → Value → Prop where
  | same (v : Value) : Reordered v v
  | list {xs ys : List Value} (h : ItemsReordered xs ys) : Reordered (.list xs) (.list ys)
  /-- The values of a mapping are reordered, and then its members. No key occurs twice. -/
  | mapping {m n m' : Mapping} (hkeys : m.DistinctKeys) (h : MembersReordered m n)
      (hperm : n.Perm m') : Reordered (.mapping m) (.mapping m')

/-- Items that are reordered one by one. -/
inductive Value.ItemsReordered : List Value → List Value → Prop where
  | nil : ItemsReordered [] []
  | cons {x y : Value} {xs ys : List Value} (h : Value.Reordered x y) (hs : ItemsReordered xs ys) :
      ItemsReordered (x :: xs) (y :: ys)

/-- Members with the same keys in the same order, whose values are reordered one by one. -/
inductive Value.MembersReordered : Mapping → Mapping → Prop where
  | nil : MembersReordered [] []
  | cons {key : String} {v v' : Value} {m n : Mapping} (h : Value.Reordered v v')
      (hs : MembersReordered m n) : MembersReordered ((key, v) :: m) ((key, v') :: n)

end

/-- The mappings have the same keys, and reordered values under each of them. -/
def Mapping.Shuffled (m m' : Mapping) : Prop :=
  m.Varies (fun _ => Value.Reordered) m'

theorem Mapping.Shuffled.same (m : Mapping) : m.Shuffled m :=
  .refl (fun _ => .same) m

theorem Value.ItemsReordered.forall₂ {xs ys : List Value} (h : ItemsReordered xs ys) :
    List.Forall₂ Reordered xs ys :=
  match h with
  | .nil => .nil
  | .cons h hs => .cons h hs.forall₂

theorem Value.MembersReordered.memberwise {m n : Mapping} (h : MembersReordered m n) :
    m.Memberwise (fun _ => Reordered) n :=
  match h with
  | .nil => .nil
  | .cons h hs => .cons ⟨rfl, h⟩ hs.memberwise

namespace Mapping

/-- Where no key occurs twice, the order of members does not matter to look-up. -/
theorem get?_perm {m m' : Mapping} (hkeys : m.DistinctKeys) (h : m.Perm m') (key : String) :
    m.get? key = m'.get? key := by
  induction h with
  | nil => rfl
  | cons member _ ih =>
    rw [get?_cons, get?_cons, ih (List.nodup_cons.1 hkeys).2]
  | swap a b m =>
    have hne : b.1 ≠ a.1 := by
      intro heq
      exact (List.nodup_cons.1 hkeys).1 (by simp [heq])
    rw [get?_cons, get?_cons, get?_cons, get?_cons]
    split_ifs with hb ha
    · exact absurd (hb.symm.trans ha) hne
    · rfl
    · rfl
    · rfl
  | trans h _ ih ih' =>
    exact (ih hkeys).trans (ih' ((h.map Prod.fst).nodup_iff.1 hkeys))

/-- Members with the same keys in the same order are the same, if no key occurs twice. -/
theorem eq_of_perm {m m' : Mapping} (hkeys : m.DistinctKeys) (h : m.Perm m')
    (horder : m.keys = m'.keys) : m = m' := by
  induction m generalizing m' with
  | nil => exact h.nil_eq
  | cons member m ih =>
    obtain ⟨member', m', rfl⟩ := List.exists_cons_of_ne_nil (l := m') fun hnil => by
      rw [hnil] at h
      exact absurd h.eq_nil (List.cons_ne_nil _ _)
    obtain ⟨hfirst, hrest⟩ := List.cons_eq_cons.1 horder
    obtain ⟨hnotMem, hdistinct⟩ := List.nodup_cons.1 hkeys
    -- the key of the first member tells it from the others
    have hsame : member = member' := by
      rcases List.mem_cons.1 (h.mem_iff.1 List.mem_cons_self) with hsame | hlater
      · exact hsame
      · exact absurd (hrest ▸ List.mem_map_of_mem (f := Prod.fst) hlater) hnotMem
    subst hsame
    rw [ih hdistinct (List.perm_cons _ |>.1 h) hrest]

end Mapping

namespace Value.Reordered

variable {v v' : Value}

theorem shuffled_of_perm {m n m' : Mapping} (hkeys : m.DistinctKeys)
    (h : m.Memberwise (fun _ => Reordered) n) (hperm : n.Perm m') : m.Shuffled m' := by
  have hdistinct : n.DistinctKeys := by
    rw [Mapping.DistinctKeys, ← h.keys_eq]
    exact hkeys
  intro key
  rw [← Mapping.get?_perm hdistinct hperm key]
  exact h.varies key

/-- Reordered values are the same, lists with reordered items, or shuffled mappings. -/
theorem cases (h : v.Reordered v') :
    v = v' ∨ (∃ xs ys, v = .list xs ∧ v' = .list ys ∧ List.Forall₂ Reordered xs ys) ∨
      ∃ m m', v = .mapping m ∧ v' = .mapping m' ∧ Mapping.Shuffled m m' := by
  cases h with
  | same => exact .inl rfl
  | list h => exact .inr (.inl ⟨_, _, rfl, rfl, h.forall₂⟩)
  | mapping hkeys h hperm =>
    exact .inr (.inr ⟨_, _, rfl, rfl, shuffled_of_perm hkeys h.memberwise hperm⟩)

/-- Whoever reads lists and mappings alike reads everything alike. -/
theorem read_eq {α : Type} {f : Value → α} (h : v.Reordered v')
    (hlist : ∀ xs ys, List.Forall₂ Reordered xs ys → f (.list xs) = f (.list ys))
    (hmapping : ∀ m m', Mapping.Shuffled m m' → f (.mapping m) = f (.mapping m')) :
    f v = f v' := by
  obtain rfl | ⟨xs, ys, rfl, rfl, hitems⟩ | ⟨m, m', rfl, rfl, hm⟩ := h.cases
  · rfl
  · exact hlist xs ys hitems
  · exact hmapping m m' hm

/-- Whoever looks at neither items nor members reads everything alike. -/
theorem scalar_eq {α : Type} {f : Value → α} (h : v.Reordered v')
    (hlist : ∀ xs ys, f (.list xs) = f (.list ys))
    (hmapping : ∀ m m', f (.mapping m) = f (.mapping m')) : f v = f v' :=
  h.read_eq (fun xs ys _ => hlist xs ys) fun m m' _ => hmapping m m'

theorem isNull_eq (h : v.Reordered v') : v.isNull = v'.isNull :=
  h.scalar_eq (fun _ _ => rfl) fun _ _ => rfl

/-- What begins by looking for a mapping sees its members only. -/
theorem bind_mapping?_eq {α : Type} {f : Mapping → Option α} (h : v.Reordered v')
    (hf : ∀ m m', m.Shuffled m' → f m = f m') : v.mapping?.bind f = v'.mapping?.bind f :=
  h.read_eq (f := fun v => v.mapping?.bind f) (fun _ _ _ => rfl) hf

theorem forall₂_same (vs : List Value) : List.Forall₂ Reordered vs vs :=
  forall₂_refl same vs

end Value.Reordered

-- ════════════════════════════════════════════════════════════════════════
-- Fields
-- ════════════════════════════════════════════════════════════════════════

namespace Mapping.Shuffled

open Value (Reordered)

variable {m m' : Mapping} (h : m.Shuffled m') (key : String) (keys : List String) (path : Path)
include h

theorem bind_eq {α : Type} {f : Value → Option α} (hf : ∀ v v', v.Reordered v' → f v = f v') :
    (m.get? key).bind f = (m'.get? key).bind f := by
  obtain ⟨hv, hv'⟩ | ⟨v, v', hv, hv', hrel⟩ := rel_cases (h key)
  · rw [hv, hv']
  · rw [hv, hv']
    exact hf v v' hrel

theorem bind_findSome?_eq {α : Type} {f : Value → Option α}
    (hf : ∀ v v', v.Reordered v' → f v = f v') :
    (keys.findSome? m.get?).bind f = (keys.findSome? m'.get?).bind f := by
  obtain ⟨hv, hv'⟩ | ⟨v, v', hv, hv', hrel⟩ := rel_cases
    (rel_findSome? fun key (_ : key ∈ keys) => h key)
  · rw [hv, hv']
  · rw [hv, hv']
    exact hf v v' hrel

theorem text_eq : Field.text m key = Field.text m' key :=
  h.bind_eq key fun _ _ hv => hv.scalar_eq (fun _ _ => rfl) fun _ _ => rfl

theorem firstText_eq : Field.firstText m keys = Field.firstText m' keys := by
  unfold Field.firstText
  rw [funext h.text_eq]

theorem isPresent_eq : Field.isPresent m key = Field.isPresent m' key :=
  Field.isPresent_eq_of_rel (fun _ _ hv => hv.isNull_eq) (h key)

theorem agree_list :
    Agree Eq (List.Forall₂ Reordered) (Field.list m key path) (Field.list m' key path) := by
  unfold Field.list
  obtain ⟨hv, hv'⟩ | ⟨v, v', hv, hv', hrel⟩ := rel_cases (h key)
  · rw [hv, hv']
    exact .ok .nil
  · rw [hv, hv']
    obtain rfl | ⟨xs, ys, rfl, rfl, h⟩ | ⟨n, n', rfl, rfl, -⟩ := hrel.cases
    · cases v with
      | null => exact .ok .nil
      | list items => exact .ok (Reordered.forall₂_same items)
      | bool | number | text | mapping => exact .error rfl
    · exact .ok h
    · exact .error rfl

theorem agree_listAlias :
    Agree Eq (fun a b => List.Forall₂ Reordered a.1 b.1 ∧ a.2 = b.2)
      (Field.listAlias m keys path) (Field.listAlias m' keys path) := by
  unfold Field.listAlias
  rw [← Field.find?_isPresent_congr fun key _ => h.isPresent_eq key]
  cases keys.find? (Field.isPresent m) with
  | some key => exact (h.agree_list key path).map fun _ _ hitems => ⟨hitems, rfl⟩
  | none => exact .ok ⟨.nil, rfl⟩

/-- A list of entities, each of which is read alike at its place, is read alike. -/
theorem listAlias_bind_eq {γ : Type} {f : Value → Nat → Path → Except StructureError γ}
    (hf : ∀ v v' i path, v.Reordered v' → f v i path = f v' i path) :
    (Field.listAlias m keys path >>= fun (items, listPath) =>
      items.zipIdx.mapM fun (v, i) => f v i (listPath.index i)) =
    (Field.listAlias m' keys path >>= fun (items, listPath) =>
      items.zipIdx.mapM fun (v, i) => f v i (listPath.index i)) := by
  refine ((h.agree_listAlias keys path).bind ?_).eq
  rintro ⟨items, listPath⟩ ⟨items', listPath'⟩ ⟨hitems, hpath⟩
  obtain rfl : listPath = listPath' := hpath
  exact Agree.mapM_zipIdx_eq hitems fun v v' i hv =>
    Tolerance.exact.agree_of_eq (hf v v' i _ hv)

theorem agree_oneOrMany (singular plural : String) :
    Agree Eq (List.Forall₂ fun a b => a.1.Reordered b.1 ∧ a.2 = b.2)
      (Field.oneOrMany m singular plural path) (Field.oneOrMany m' singular plural path) := by
  unfold Field.oneOrMany
  dsimp only
  rw [← h.isPresent_eq singular]
  generalize (if Field.isPresent m singular then singular else plural) = key
  obtain ⟨hv, hv'⟩ | ⟨v, v', hv, hv', hrel⟩ := rel_cases (h key)
  · rw [hv, hv']
    exact .ok .nil
  · rw [hv, hv']
    have hone := hrel
    obtain rfl | ⟨xs, ys, rfl, rfl, h⟩ | ⟨n, n', rfl, rfl, -⟩ := hrel.cases
    · cases v with
      | null => exact .ok .nil
      | list items => exact .ok (Field.forall₂_indexed (Reordered.forall₂_same items) _)
      | mapping | text => exact .ok (.cons ⟨hone, rfl⟩ .nil)
      | bool | number => exact .error rfl
    · exact .ok (Field.forall₂_indexed h _)
    · exact .ok (.cons ⟨hone, rfl⟩ .nil)

theorem agree_mapping :
    Agree Eq (Option.Rel Mapping.Shuffled) (Field.mapping (m.get? key) path)
      (Field.mapping (m'.get? key) path) := by
  unfold Field.mapping
  obtain ⟨hv, hv'⟩ | ⟨v, v', hv, hv', hrel⟩ := rel_cases (h key)
  · rw [hv, hv']
    exact .ok .none
  · rw [hv, hv']
    obtain rfl | ⟨xs, ys, rfl, rfl, -⟩ | ⟨n, n', rfl, rfl, h⟩ := hrel.cases
    · cases v with
      | null => exact .ok .none
      | mapping n => exact .ok (.some (.same n))
      | bool | number | text | list => exact .error rfl
    · exact .error rfl
    · exact .ok (.some h)

end Mapping.Shuffled

-- ════════════════════════════════════════════════════════════════════════
-- Entities
-- ════════════════════════════════════════════════════════════════════════

section Entities

variable {v v' : Value} {m m' : Mapping}

theorem Endpoint.ofValue?_reordered (h : v.Reordered v') : ofValue? v = ofValue? v' := by
  refine h.read_eq (fun _ _ _ => rfl) fun m m' hm => ?_
  have htoken := funext fun key => hm.bind_eq (f := token?) key fun _ _ hv =>
    hv.scalar_eq (fun _ _ => rfl) fun _ _ => rfl
  unfold ofValue?
  dsimp only
  rw [htoken, hm.firstText_eq]

theorem Port.ofValue_reordered (h : v.Reordered v') (index : Nat) (path : Path) :
    ofValue v index path = ofValue v' index path := by
  refine h.read_eq (f := fun v => ofValue v index path) (fun _ _ _ => rfl) fun m m' hm => ?_
  have hpeer := hm.bind_findSome?_eq ["connected_to", "connectedTo", "peer"] fun _ _ =>
    Endpoint.ofValue?_reordered
  unfold ofValue
  dsimp only
  rw [hm.firstText_eq, hm.text_eq, hm.text_eq "speed"]
  exact congrArg (fun peer => Except.ok (Port.mk _ _ _ peer)) hpeer

theorem Port.listIn_shuffled (h : m.Shuffled m') (path : Path) :
    listIn m path = listIn m' path :=
  h.listAlias_bind_eq (f := ofValue) _ path fun _ _ i path hv => ofValue_reordered hv i path

theorem RackUnit.ofValue?_reordered (h : v.Reordered v') : ofValue? v = ofValue? v' :=
  h.scalar_eq (fun _ _ => rfl) fun _ _ => rfl

/-- The unit at the beginning of a range. -/
def RackUnit.ofRangeValue? (range : Value) : Option Nat :=
  range.list?.bind fun items => items.head?.bind ofValue?

theorem RackUnit.ofRangeValue?_reordered (h : v.Reordered v') :
    ofRangeValue? v = ofRangeValue? v' := by
  refine h.read_eq (fun xs ys hitems => ?_) fun _ _ _ => rfl
  cases hitems with
  | nil => rfl
  | cons hfirst => exact ofValue?_reordered hfirst

theorem RackUnit.ofPositionValue?_reordered (h : v.Reordered v') :
    ofPositionValue? v = ofPositionValue? v' :=
  h.bind_mapping?_eq fun _ _ hm => hm.bind_eq "unit" fun _ _ => ofValue?_reordered

theorem RackUnit.start_shuffled (h : m.Shuffled m') : start m = start m' := by
  have hrange : ofRange? m = ofRange? m' := by
    unfold ofRange?
    rw [Option.bind_assoc, Option.bind_assoc]
    obtain ⟨hv, hv'⟩ | ⟨v, v', hv, hv', hrel⟩ := rel_cases
      (rel_or (h "positionRange") (h "position_range"))
    · rw [hv, hv']
    · rw [hv, hv']
      exact ofRangeValue?_reordered hrel
  have hposition : ofPosition? m = ofPosition? m' := by
    rw [ofPosition?_eq, ofPosition?_eq]
    exact h.bind_eq "position" fun _ _ => ofPositionValue?_reordered
  rw [start, start, hrange, hposition]

theorem Device.detailLines_shuffled (h : m.Shuffled m') : detailLines m = detailLines m' :=
  List.filterMap_congr fun field _ =>
    congrArg (Option.map fun v => field.2 ++ ": " ++ v) (h.text_eq field.1)

theorem Device.ofMapping_shuffled (h : m.Shuffled m') (parent : String) (index : Nat)
    (path : Path) (defaultType : String) :
    ofMapping m parent index path defaultType = ofMapping m' parent index path defaultType := by
  have hcount : (m.get? "count").bind countOfValue? = (m'.get? "count").bind countOfValue? :=
    h.bind_eq "count" fun _ _ hv => hv.scalar_eq (fun _ _ => rfl) fun _ _ => rfl
  unfold ofMapping
  simp only [h.firstText_eq, h.text_eq, hcount, Port.listIn_shuffled h, RackUnit.start_shuffled h,
    detailLines_shuffled h]

theorem Device.ofValue_reordered (h : v.Reordered v') (parent : String) (index : Nat)
    (path : Path) (defaultType : String) :
    ofValue v parent index path defaultType = ofValue v' parent index path defaultType :=
  h.read_eq (f := fun v => ofValue v parent index path defaultType) (fun _ _ _ => rfl)
    fun _ _ hm => ofMapping_shuffled hm parent index path defaultType

theorem Device.listIn_shuffled (h : m.Shuffled m') (keys : List String) (parent : String)
    (path : Path) (defaultType : String) :
    listIn m keys parent path defaultType = listIn m' keys parent path defaultType :=
  h.listAlias_bind_eq (f := fun v i path => ofValue v parent i path defaultType) keys path
    fun _ _ i path hv => ofValue_reordered hv parent i path defaultType

theorem Rack.ofValue_reordered (h : v.Reordered v') (index : Nat) (path : Path) :
    ofValue v index path = ofValue v' index path := by
  refine h.read_eq (f := fun v => ofValue v index path) (fun _ _ _ => rfl) fun m m' hm => ?_
  unfold ofValue
  dsimp only
  rw [hm.firstText_eq, hm.firstText_eq ["label", "name"], Device.listIn_shuffled hm]

theorem Site.ofValue_reordered (h : v.Reordered v') (defaultId : String) (path : Path) :
    ofValue v defaultId path = ofValue v' defaultId path := by
  refine h.read_eq (f := fun v => ofValue v defaultId path) (fun _ _ _ => rfl) fun m m' hm => ?_
  simp only [ofValue, ofMapping, hm.firstText_eq, hm.text_eq]

/-- The servers of a rack are the same up to the order of their members. -/
theorem Rack.agree_serverEntry (h : v.Reordered v') (path : Path) :
    Agree Eq (fun a b => List.Forall₂ Value.Reordered a.1 b.1 ∧ a.2 = b.2)
      (serverEntry v path) (serverEntry v' path) := by
  obtain rfl | ⟨xs, ys, rfl, rfl, hitems⟩ | ⟨m, m', rfl, rfl, hm⟩ := h.cases
  · exact .refl (fun _ => rfl) (fun a => ⟨Value.Reordered.forall₂_same a.1, rfl⟩) _
  · exact .ok ⟨hitems, rfl⟩
  · exact (hm.agree_list "servers" path).map fun _ _ hitems =>
      ⟨hitems, hm.firstText_eq ["label", "name"]⟩

theorem Rack.mountEntry_reordered {id : String} (h : v.Reordered v') (racks : List Rack) :
    mountEntry racks (id, v) = mountEntry racks (id, v') := by
  refine ((agree_serverEntry h _).bind ?_).eq
  rintro ⟨items, label⟩ ⟨items', label'⟩ ⟨hitems, hlabel⟩
  obtain rfl : label = label' := hlabel
  refine Agree.bind (R := Eq) (Agree.mapM_zipIdx_eq hitems fun v v' i hv =>
    Tolerance.exact.agree_of_eq (Device.ofValue_reordered hv _ _ _ _)) fun ds ds' hd => ?_
  rw [hd]
  exact .ok rfl

end Entities

-- ════════════════════════════════════════════════════════════════════════
-- Connection records
-- ════════════════════════════════════════════════════════════════════════

/-- Tables of cable types that are equal up to the order of members. -/
def CableCatalog.Shuffled (catalog catalog' : CableCatalog) : Prop :=
  Option.Rel Mapping.Shuffled catalog.table catalog'.table

namespace Connection

variable {v v' : Value} {m m' : Mapping} {catalog catalog' : CableCatalog}

theorem describe_shuffled (hcatalog : catalog.Shuffled catalog') (h : m.Shuffled m') :
    catalog.describe m = catalog'.describe m' := by
  have hentry : ∀ type, ((catalog.table.bind fun t => t.get? type).bind Value.mapping?).bind
        (fun e => Field.firstText e ["spec", "name"]) =
      ((catalog'.table.bind fun t => t.get? type).bind Value.mapping?).bind
        (fun e => Field.firstText e ["spec", "name"]) := by
    intro type
    obtain ⟨ht, ht'⟩ | ⟨t, t', ht, ht', htable⟩ := rel_cases hcatalog
    · rw [ht, ht']
    · rw [ht, ht', Option.bind_some, Option.bind_some, Option.bind_assoc, Option.bind_assoc]
      exact htable.bind_eq type fun _ _ hv =>
        hv.bind_mapping?_eq fun _ _ hm => hm.firstText_eq _
  unfold CableCatalog.describe
  rw [h.firstText_eq, h.text_eq]
  split
  · exact congrArg (Option.getD · _) (hentry _)
  · rfl

theorem dataLabel_shuffled (hcatalog : catalog.Shuffled catalog') (h : m.Shuffled m') :
    dataLabel m catalog = dataLabel m' catalog' := by
  simp only [dataLabel, describe_shuffled hcatalog h, h.text_eq]

theorem isInactive_shuffled (h : m.Shuffled m') : isInactive m = isInactive m' := by
  unfold isInactive
  rw [h.text_eq]
  obtain ⟨hv, hv'⟩ | ⟨v, v', hv, hv', hrel⟩ := rel_cases (h "active")
  · rw [hv, hv']
  · rw [hv, hv']
    obtain rfl | ⟨xs, ys, rfl, rfl, -⟩ | ⟨n, n', rfl, rfl, -⟩ := hrel.cases <;> rfl

theorem presentFields_shuffled (h : m.Shuffled m') (fields : List String) :
    presentFields m fields = presentFields m' fields :=
  List.filterMap_congr fun field _ => h.text_eq field

theorem compose_shuffled (hcatalog : catalog.Shuffled catalog') (h : m.Shuffled m')
    (category : Category) : compose m category catalog = compose m' category catalog' := by
  cases category with
  | link | site | flow => simp only [compose, presentFields_shuffled h]
  | power => simp only [compose, describe_shuffled hcatalog h, h.text_eq]
  | data => simp only [compose, dataLabel_shuffled hcatalog h, isInactive_shuffled h]
  | optional => simp only [compose, dataLabel_shuffled hcatalog h, h.text_eq]

theorem end?_shuffled (h : m.Shuffled m') (key other : String) : end? m key other =
      Connection.end? m' key other := by
  rw [end?, end?]
  obtain ⟨hv, hv'⟩ | ⟨v, v', hv, hv', hrel⟩ := rel_cases (rel_or (h key) (h other))
  · rw [hv, hv']
  · rw [hv, hv']
    exact Endpoint.ofValue?_reordered hrel

theorem ofRecord_reordered (hcatalog : catalog.Shuffled catalog') (h : v.Reordered v')
    (category : Category) (context : String) :
    ofRecord v category catalog context = ofRecord v' category catalog' context := by
  have hmapping : ∀ m m', Mapping.Shuffled m m' →
      ofRecord (.mapping m) category catalog context =
        ofRecord (.mapping m') category catalog' context := by
    intro m m' hm
    dsimp only [ofRecord]
    rw [end?_shuffled hm, end?_shuffled hm, compose_shuffled hcatalog hm]
  obtain rfl | ⟨xs, ys, rfl, rfl, -⟩ | ⟨m, m', rfl, rfl, hm⟩ := h.cases
  · cases v with
    | mapping m => exact hmapping m m (.same m)
    | null | bool | number | text | list => rfl
  · rfl
  · exact hmapping m m' hm

theorem decodeList_reordered (hcatalog : catalog.Shuffled catalog') {records records' : List Value}
    (h : List.Forall₂ Value.Reordered records records') (category : Category) (path : Path) :
    decodeList records category path catalog = decodeList records' category path catalog' :=
  decodeList_congr h (fun _ _ context hv => ofRecord_reordered hcatalog hv category context) path

end Connection

end InfraDiagram
