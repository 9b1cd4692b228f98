import Mathlib.Data.List.Forall2
import InfraDiagram.Inventory.Rack
import InfraDiagram.Link.Connection
import InfraDiagram.Proofs.OrderedEntries
import InfraDiagram.Schema

/-!
# Two readings compared

Documents that are alike in some respect are read alike. A reader that is given related values
either fails on both of them or succeeds on both with related results, and how far the errors agree
is a choice of its own.

## Main definitions

- `Gives` — what the result of a computation satisfies if there is one
- `Agree` — two readings that both fail, or both succeed with related results
- `Mapping.Varies` — mappings with the same keys and related values
- `Mapping.EqOff` — mappings that hold the same apart from some keys
- `Mapping.given?`, `Mapping.AlikeOff` — the same, when null counts as nothing
- `Value.ListsBy`, `Value.MappingsBy` — values that are equal up to the items of a list or the
  members of a mapping
- `cableKeys` — the keys of the connection lists in equipment documents

## Main statements

- `Gives.bind` — a computation step by step
- `Agree.bind`, `Agree.mapM` — readers that are composed of others
- `Device.agree_ofMapping` — devices that differ in their ports at most
-/

namespace InfraDiagram

/-- A computation that succeeds does so step by step. -/
theorem exists_of_bind_eq_ok {ε α β : Type} {m : Except ε α} {f : α → Except ε β} {b : β}
    (h : m >>= f = .ok b) : ∃ a, m = .ok a ∧ f a = .ok b := by
  cases m with
  | error e => exact absurd h (by simp [bind, Except.bind])
  | ok a => exact ⟨a, rfl, h⟩

/-- A computation of which something is known succeeds. -/
theorem exists_of_toOption_map {ε α β : Type} {m : Except ε α} {f : α → β} {b : β}
    (h : m.toOption.map f = some b) : ∃ a, m = .ok a ∧ f a = b := by
  cases m with
  | error e => cases h
  | ok a => exact ⟨a, rfl, Option.some.inj h⟩

/-- Whatever a computation results in satisfies a predicate. -/
def Gives {ε α : Type} (result : Except ε α) (P : α → Prop) : Prop :=
  ∀ a, result = .ok a → P a

namespace Gives

variable {ε α β : Type} {P : α → Prop} {Q : β → Prop}

theorem ok {a : α} (h : P a) : Gives (.ok a : Except ε α) P := by
  intro b hb
  obtain rfl := Except.ok.inj hb
  exact h

theorem error (e : ε) : Gives (.error e) P :=
  fun _ h => nomatch h

theorem bind {result : Except ε α} {f : α → Except ε β} (h : Gives result P)
    (hf : ∀ a, P a → Gives (f a) Q) : Gives (result >>= f) Q := by
  intro b hb
  obtain ⟨a, ha, hfa⟩ := exists_of_bind_eq_ok hb
  exact hf a (h a ha) b hfa

theorem any (result : Except ε α) : Gives result fun _ => True :=
  fun _ _ => trivial

end Gives

/-- Items that are related one by one are so together with their positions. -/
theorem forall₂_zipIdx {α β : Type} {R : α → β → Prop} {S : α × Nat → β × Nat → Prop}
    {xs : List α} {ys : List β} (h : List.Forall₂ R xs ys)
    (hS : ∀ x y i, R x y → S (x, i) (y, i)) (n : Nat) :
    List.Forall₂ S (xs.zipIdx n) (ys.zipIdx n) := by
  induction h generalizing n with
  | nil => exact .nil
  | cons h _ ih => exact .cons (hS _ _ n h) (ih (n + 1))

/-- Two readings that both fail, with related errors, or both succeed, with related results. -/
inductive Agree {ε α β : Type} (E : ε → ε → Prop) (R : α → β → Prop) :
    Except ε α → Except ε β → Prop where
  | ok {a : α} {b : β} (h : R a b) : Agree E R (.ok a) (.ok b)
  | error {e e' : ε} (h : E e e') : Agree E R (.error e) (.error e')

namespace Agree

variable {ε α β γ δ : Type} {E : ε → ε → Prop} {R : α → β → Prop} {S : γ → δ → Prop}
  {r : Except ε α} {r' : Except ε β}

theorem refl {R : α → α → Prop} (hE : ∀ e, E e e) (hR : ∀ a, R a a) (r : Except ε α) :
    Agree E R r r := by
  cases r with
  | error e => exact .error (hE e)
  | ok a => exact .ok (hR a)

theorem mono {R' : α → β → Prop} (h : Agree E R r r') (hR : ∀ a b, R a b → R' a b) :
    Agree E R' r r' := by
  cases h with
  | ok h => exact .ok (hR _ _ h)
  | error h => exact .error h

theorem bind {f : α → Except ε γ} {g : β → Except ε δ} (h : Agree E R r r')
    (hf : ∀ a b, R a b → Agree E S (f a) (g b)) : Agree E S (r >>= f) (r' >>= g) := by
  cases h with
  | ok h => exact hf _ _ h
  | error h => exact .error h

/-- Readers that go on from the same reading. -/
theorem bind_same {r r' : Except ε α} {f : α → Except ε γ} {g : α → Except ε δ}
    (hE : ∀ e, E e e) (h : r = r') (hf : ∀ a, Agree E S (f a) (g a)) :
    Agree E S (r >>= f) (r' >>= g) := by
  subst h
  cases r with
  | ok a => exact hf a
  | error e => exact .error (hE e)

theorem map {f : α → γ} {g : β → δ} (h : Agree E R r r') (hf : ∀ a b, R a b → S (f a) (g b)) :
    Agree E S (r.map f) (r'.map g) := by
  cases h with
  | ok h => exact .ok (hf _ _ h)
  | error h => exact .error h

/-- Items that are read alike one by one are read alike as a list. -/
theorem mapM {f : α → Except ε γ} {g : β → Except ε δ} {xs : List α} {ys : List β}
    (h : List.Forall₂ (fun x y => Agree E S (f x) (g y)) xs ys) :
    Agree E (List.Forall₂ S) (xs.mapM f) (ys.mapM g) := by
  induction h with
  | nil => exact .ok .nil
  | cons h _ ih =>
    rw [List.mapM_cons, List.mapM_cons]
    exact h.bind fun a b hab => ih.bind fun as bs hs => .ok (.cons hab hs)

/-- Items that change a state alike one by one change it alike in a row. -/
theorem foldlM {f : γ → α → Except ε γ} {g : γ → β → Except ε γ} {xs : List α} {ys : List β}
    (h : List.Forall₂ R xs ys) (hf : ∀ s x y, R x y → Agree E Eq (f s x) (g s y)) (s : γ) :
    Agree E Eq (xs.foldlM f s) (ys.foldlM g s) := by
  induction h generalizing s with
  | nil => exact .ok rfl
  | cons h _ ih =>
    rw [List.foldlM_cons, List.foldlM_cons]
    exact (hf s _ _ h).bind fun a b hab => hab ▸ ih a

theorem mapM_same {f : α → Except ε γ} {g : α → Except ε δ} {xs : List α}
    (h : ∀ x ∈ xs, Agree E S (f x) (g x)) :
    Agree E (List.Forall₂ S) (xs.mapM f) (xs.mapM g) :=
  mapM (List.forall₂_same.2 h)

/-- Items that are read alike wherever they stand are read alike as a list. -/
theorem mapM_zipIdx {f : α × Nat → Except ε γ} {g : β × Nat → Except ε δ} {xs : List α}
    {ys : List β} (h : List.Forall₂ R xs ys)
    (hf : ∀ x y i, R x y → Agree E S (f (x, i)) (g (y, i))) :
    Agree E (List.Forall₂ S) (xs.zipIdx.mapM f) (ys.zipIdx.mapM g) :=
  mapM (forall₂_zipIdx h hf 0)

theorem mapM_zipIdx_eq {f : α × Nat → Except ε γ} {g : β × Nat → Except ε γ} {xs : List α}
    {ys : List β} (h : List.Forall₂ R xs ys)
    (hf : ∀ x y i, R x y → Agree E Eq (f (x, i)) (g (y, i))) :
    Agree E Eq (xs.zipIdx.mapM f) (ys.zipIdx.mapM g) :=
  (mapM_zipIdx h hf).mono fun _ _ hrel => List.forall₂_eq_eq_eq ▸ hrel

/-- Equal up to nothing is equal. -/
theorem eq {r' : Except ε α} (h : Agree Eq Eq r r') : r = r' := by
  cases h with
  | ok h => rw [h]
  | error h => rw [h]

theorem symm {r' : Except ε α} (hE : ∀ e e', E e e' → E e' e) (h : Agree E Eq r r') :
    Agree E Eq r' r := by
  cases h with
  | ok h => exact .ok h.symm
  | error h => exact .error (hE _ _ h)

theorem trans {r' r'' : Except ε α} (hE : ∀ e e' e'', E e e' → E e' e'' → E e e'')
    (h : Agree E Eq r r') (h' : Agree E Eq r' r'') : Agree E Eq r r'' := by
  cases h with
  | ok h =>
    cases h' with
    | ok h' => exact .ok (h.trans h')
  | error h =>
    cases h' with
    | error h' => exact .error (hE _ _ _ h h')

theorem error_iff (h : Agree Eq R r r') (e : ε) : r = .error e ↔ r' = .error e := by
  cases h with
  | ok _ => exact ⟨(nomatch ·), (nomatch ·)⟩
  | error h => rw [h, Except.error.injEq, Except.error.injEq]

theorem fails_iff (h : Agree E R r r') : (∃ e, r = .error e) ↔ ∃ e, r' = .error e := by
  cases h with
  | ok _ => simp
  | error _ => exact ⟨fun _ => ⟨_, rfl⟩, fun _ => ⟨_, rfl⟩⟩

theorem ok_eq {r' : Except ε α} (h : Agree E Eq r r') {a b : α} (ha : r = .ok a)
    (hb : r' = .ok b) : a = b := by
  rw [ha, hb] at h
  cases h with
  | ok h => exact h

end Agree

-- ════════════════════════════════════════════════════════════════════════
-- Values
-- ════════════════════════════════════════════════════════════════════════

theorem rel_cases {α β : Type} {R : α → β → Prop} {o : Option α} {o' : Option β}
    (h : Option.Rel R o o') :
    (o = none ∧ o' = none) ∨ ∃ a b, o = some a ∧ o' = some b ∧ R a b := by
  cases h with
  | some h => exact .inr ⟨_, _, rfl, rfl, h⟩
  | none => exact .inl ⟨rfl, rfl⟩

theorem rel_of_eq {α : Type} {R : α → α → Prop} {o o' : Option α} (hR : ∀ a, R a a)
    (h : o = o') : Option.Rel R o o' := by
  subst h
  cases o with
  | some a => exact .some (hR a)
  | none => exact .none

theorem rel_mono {α β : Type} {R S : α → β → Prop} {o : Option α} {o' : Option β}
    (h : Option.Rel R o o') (hRS : ∀ a b, R a b → S a b) : Option.Rel S o o' := by
  cases h with
  | some h => exact .some (hRS _ _ h)
  | none => exact .none

theorem rel_or {α β : Type} {R : α → β → Prop} {a b : Option α} {a' b' : Option β}
    (ha : Option.Rel R a a') (hb : Option.Rel R b b') : Option.Rel R (a.or b) (a'.or b') := by
  cases ha with
  | some h => exact .some h
  | none => exact hb

/-- Under the first of several keys that is present, related values are found. -/
theorem rel_findSome? {R : Value → Value → Prop} {m m' : Mapping} {keys : List String}
    (h : ∀ key ∈ keys, Option.Rel R (m.get? key) (m'.get? key)) :
    Option.Rel R (keys.findSome? m.get?) (keys.findSome? m'.get?) := by
  induction keys with
  | nil => exact .none
  | cons key keys ih =>
    have hrest := ih fun key hkey => h key (List.mem_cons_of_mem _ hkey)
    rw [List.findSome?_cons, List.findSome?_cons]
    obtain ⟨hv, hv'⟩ | ⟨v, v', hv, hv', hrel⟩ := rel_cases (h key List.mem_cons_self)
    · rw [hv, hv']
      exact hrest
    · rw [hv, hv']
      exact .some hrel

theorem forall₂_refl {R : Value → Value → Prop} (hR : ∀ v, R v v) (vs : List Value) :
    List.Forall₂ R vs vs :=
  List.forall₂_same.2 fun v _ => hR v

namespace Mapping

theorem get?_cons (member : String × Value) (m : Mapping) (key : String) :
    get? (member :: m) key = if key = member.1 then some member.2 else m.get? key :=
  Entries.lookup_cons member.1 member.2 m key

theorem get?_append (before after : Mapping) (key : String) :
    get? (before ++ after) key = (get? before key).or (get? after key) :=
  List.lookup_append

theorem get?_eq_none {m : Mapping} {key : String} (h : key ∉ m.keys) : m.get? key = none :=
  Entries.lookup_eq_none h

theorem insert_eq_put (m : Mapping) (key : String) (value : Value) :
    m.insert key value = Entries.put key value m := by
  induction m with
  | nil => rfl
  | cons member rest ih => rw [insert, Entries.put, ih]

/-- The same keys are present, and the values under each of them are related. -/
def Varies (V : String → Value → Value → Prop) (m m' : Mapping) : Prop :=
  ∀ key, Option.Rel (V key) (m.get? key) (m'.get? key)

/-- The mappings hold the same under all keys but the given ones. -/
def EqOff (keys : List String) (m m' : Mapping) : Prop :=
  ∀ key, key ∉ keys → m.get? key = m'.get? key

/-- What is given under a key. Null counts as nothing. -/
def given? (m : Mapping) (key : String) : Option Value :=
  (m.get? key).filter fun v => !v.isNull

/-- The mappings give the same under all keys but the given ones. -/
def AlikeOff (keys : List String) (m m' : Mapping) : Prop :=
  ∀ key, key ∉ keys → m.given? key = m'.given? key

theorem given?_congr {m m' : Mapping} {key : String} (h : m.get? key = m'.get? key) :
    m.given? key = m'.given? key := by
  rw [given?, given?, h]

theorem EqOff.alike {keys : List String} {m m' : Mapping} (h : m.EqOff keys m') :
    m.AlikeOff keys m' :=
  fun key hkey => given?_congr (h key hkey)

theorem AlikeOff.mono {keys keys' : List String} {m m' : Mapping} (h : m.AlikeOff keys m')
    (hsub : keys ⊆ keys') : m.AlikeOff keys' m' :=
  fun key hkey => h key fun hmem => hkey (hsub hmem)

/-- Whoever takes null for nothing reads what is given. -/
theorem bind_given? {α : Type} {f : Value → Option α} (hf : f .null = none) (m : Mapping)
    (key : String) : (m.given? key).bind f = (m.get? key).bind f := by
  unfold given?
  cases m.get? key with
  | none => rfl
  | some v =>
    cases v with
    | null => exact hf.symm
    | bool | number | text | list | mapping => rfl

namespace Varies

variable {V : String → Value → Value → Prop} {m m' : Mapping}

theorem refl (hV : ∀ key v, V key v v) (m : Mapping) : Varies V m m :=
  fun key => rel_of_eq (hV key) rfl

theorem nil : Varies V [] [] :=
  fun _ => .none

theorem cons {key : String} {v v' : Value} (hv : V key v v') (h : Varies V m m') :
    Varies V ((key, v) :: m) ((key, v') :: m') := by
  intro other
  rw [get?_cons, get?_cons]
  split_ifs with hother
  · exact .some (hother ▸ hv)
  · exact h other

theorem rel (h : Varies V m m') {key : String} {R : Value → Value → Prop} (hkey : V key = R) :
    Option.Rel R (m.get? key) (m'.get? key) :=
  hkey ▸ h key

theorem get?_eq (h : Varies V m m') {key : String} (hkey : V key = Eq) :
    m.get? key = m'.get? key := by
  obtain ⟨hv, hv'⟩ | ⟨v, v', hv, hv', hrel⟩ := rel_cases (h.rel hkey)
  · rw [hv, hv']
  · rw [hv, hv', hrel]

theorem contains_eq (h : Varies V m m') (key : String) : m.contains key = m'.contains key := by
  unfold contains
  obtain ⟨hv, hv'⟩ | ⟨v, v', hv, hv', -⟩ := rel_cases (h key)
  · rw [hv, hv']
  · rw [hv, hv']
    rfl

/-- Documents with the same keys are of the same kind. -/
theorem classify_eq (h : Varies V m m') : classifyMapping m = classifyMapping m' := by
  have hcontains : (fun marker : String × Kind => m.contains marker.1) =
      fun marker => m'.contains marker.1 :=
    funext fun marker => h.contains_eq marker.1
  unfold classifyMapping
  rw [hcontains]

end Varies

end Mapping

namespace Value

/-- What may describe an entity: a mapping or a bare name. -/
def IsEntity : Value → Prop
  | .mapping _ | .text _ => True
  | _ => False

theorem IsEntity.isNull {v : Value} (h : v.IsEntity) : v.isNull = false := by
  cases v with
  | null => exact h.elim
  | bool | number | text | list | mapping => rfl

/-- The values are equal, or they are lists with related items. -/
inductive ListsBy (R : List Value → List Value → Prop) : Value → Value → Prop where
  | refl (v : Value) : ListsBy R v v
  | lists {xs ys : List Value} (h : R xs ys) : ListsBy R (.list xs) (.list ys)

/-- The values are equal, or they are mappings with related values. -/
inductive MappingsBy (V : String → Value → Value → Prop) : Value → Value → Prop where
  | refl (v : Value) : MappingsBy V v v
  | mappings {m m' : Mapping} (h : m.Varies V m') : MappingsBy V (.mapping m) (.mapping m')

/-- The values are equal, or they are related entities, or lists with related items. -/
inductive OneOrManyBy (R : Value → Value → Prop) : Value → Value → Prop where
  | refl (v : Value) : OneOrManyBy R v v
  | one {v v' : Value} (hv : v.IsEntity) (hv' : v'.IsEntity) (h : R v v') : OneOrManyBy R v v'
  | many {xs ys : List Value} (h : List.Forall₂ R xs ys) : OneOrManyBy R (.list xs) (.list ys)

theorem ListsBy.isNull_eq {R : List Value → List Value → Prop} {v v' : Value}
    (h : ListsBy R v v') : v.isNull = v'.isNull := by
  cases h with
  | refl => rfl
  | lists => rfl

theorem MappingsBy.isNull_eq {V : String → Value → Value → Prop} {v v' : Value}
    (h : MappingsBy V v v') : v.isNull = v'.isNull := by
  cases h with
  | refl => rfl
  | mappings => rfl

theorem OneOrManyBy.isNull_eq {R : Value → Value → Prop} {v v' : Value}
    (h : OneOrManyBy R v v') : v.isNull = v'.isNull := by
  cases h with
  | refl => rfl
  | one hv hv' => rw [hv.isNull, hv'.isNull]
  | many => rfl

theorem rel_mapping? {V : String → Value → Value → Prop} {o o' : Option Value}
    (hV : ∀ key v, V key v v) (h : Option.Rel (MappingsBy V) o o') :
    Option.Rel (Mapping.Varies V) (o.bind mapping?) (o'.bind mapping?) := by
  cases h with
  | none => exact .none
  | @some v v' h =>
    cases h with
    | mappings h => exact .some h
    | refl =>
      cases v with
      | mapping m => exact .some (.refl hV m)
      | null | bool | number | text | list => exact .none

end Value

-- ════════════════════════════════════════════════════════════════════════
-- Fields
-- ════════════════════════════════════════════════════════════════════════

namespace Field

variable {m m' : Mapping} {key : String}

theorem text_congr (h : m.given? key = m'.given? key) : text m key = text m' key := by
  rw [text, text, ← Mapping.bind_given? rfl, ← Mapping.bind_given? rfl, h]

theorem firstText_congr {keys : List String} (h : ∀ key ∈ keys, m.given? key = m'.given? key) :
    firstText m keys = firstText m' keys := by
  unfold firstText
  induction keys with
  | nil => rfl
  | cons key keys ih =>
    rw [List.findSome?_cons, List.findSome?_cons, text_congr (h key (by simp)),
      ih fun k hk => h k (by simp [hk])]

theorem list_given? (m : Mapping) (key : String) (path : Path) :
    list m key path = match m.given? key with
      | none => .ok []
      | some (.list items) => .ok items
      | some other => .error (.of (path.key key) .list other) := by
  unfold list Mapping.given?
  cases m.get? key with
  | none => rfl
  | some v => cases v <;> rfl

theorem list_congr (h : m.given? key = m'.given? key) (path : Path) :
    list m key path = list m' key path := by
  rw [list_given?, list_given?, h]

theorem isPresent_given? (m : Mapping) (key : String) :
    isPresent m key = (m.given? key).isSome := by
  rw [isPresent, Mapping.given?, Option.isSome_filter]

theorem isPresent_congr (h : m.given? key = m'.given? key) :
    isPresent m key = isPresent m' key := by
  rw [isPresent_given?, isPresent_given?, h]

theorem isPresent_eq_of_rel {V : Value → Value → Prop}
    (hV : ∀ v v', V v v' → v.isNull = v'.isNull) (h : Option.Rel V (m.get? key) (m'.get? key)) :
    isPresent m key = isPresent m' key := by
  unfold isPresent
  obtain ⟨hv, hv'⟩ | ⟨v, v', hv, hv', hrel⟩ := rel_cases h
  · rw [hv, hv']
  · rw [hv, hv', Option.any_some, Option.any_some, hV v v' hrel]

theorem find?_isPresent_congr {keys : List String}
    (h : ∀ key ∈ keys, isPresent m key = isPresent m' key) :
    keys.find? (isPresent m) = keys.find? (isPresent m') := by
  induction keys with
  | nil => rfl
  | cons key keys ih =>
    rw [List.find?_cons, List.find?_cons, h key (by simp), ih fun k hk => h k (by simp [hk])]

theorem listAlias_congr {keys : List String} (h : ∀ key ∈ keys, m.given? key = m'.given? key)
    (path : Path) : listAlias m keys path = listAlias m' keys path := by
  unfold listAlias
  rw [find?_isPresent_congr fun key hkey => isPresent_congr (h key hkey)]
  split
  · rename_i found hfound
    rw [list_congr (h found (List.mem_of_find?_eq_some hfound))]
  · rfl

variable {E : StructureError → StructureError → Prop} {R : List Value → List Value → Prop}
  {path path' : Path}

/-- Fields with related lists are read as related lists. -/
theorem agree_list (hR : ∀ xs, R xs xs)
    (hE : ∀ v, E (.of (path.key key) .list v) (.of (path'.key key) .list v))
    (h : Option.Rel (Value.ListsBy R) (m.get? key) (m'.get? key)) :
    Agree E R (list m key path) (list m' key path') := by
  unfold list
  obtain ⟨hv, hv'⟩ | ⟨v, v', hv, hv', hrel⟩ := rel_cases h
  · rw [hv, hv']
    exact .ok (hR [])
  · rw [hv, hv']
    cases hrel with
    | lists h => exact .ok h
    | refl =>
      cases v with
      | null => exact .ok (hR [])
      | list items => exact .ok (hR items)
      | bool | number | text | mapping => exact .error (hE _)

/-- Alternative fields with related lists are read under the same name. -/
theorem agree_listAlias {keys : List String} (hR : ∀ xs, R xs xs)
    (hE : ∀ key v, E (.of (path.key key) .list v) (.of (path'.key key) .list v))
    (h : ∀ key ∈ keys, Option.Rel (Value.ListsBy R) (m.get? key) (m'.get? key)) :
    Agree E (fun a b => R a.1 b.1 ∧ ∃ key, a.2 = path.key key ∧ b.2 = path'.key key)
      (listAlias m keys path) (listAlias m' keys path') := by
  unfold listAlias
  rw [← find?_isPresent_congr fun key hkey =>
    isPresent_eq_of_rel (fun _ _ => Value.ListsBy.isNull_eq) (h key hkey)]
  cases hfind : keys.find? (isPresent m) with
  | some key =>
    have hlist := agree_list hR (hE key) (h key (List.mem_of_find?_eq_some hfind))
    exact hlist.map fun xs ys hxs => ⟨hxs, key, rfl, rfl⟩
  | none => exact .ok ⟨hR [], _, rfl, rfl⟩

theorem oneOrMany_entity {singular plural : String} {v : Value} (hv : v.IsEntity)
    (hkey : (if isPresent m singular then singular else plural) = key)
    (h : m.get? key = some v) (path : Path) :
    oneOrMany m singular plural path = .ok [(v, path.key key)] := by
  unfold oneOrMany
  dsimp only
  rw [hkey, h]
  cases v with
  | mapping | text => rfl
  | null | bool | number | list => exact hv.elim

/-- Related items are related at their places in a list. -/
theorem forall₂_indexed {R : Value → Value → Prop} {vs vs' : List Value}
    (h : List.Forall₂ R vs vs') (base : Path) :
    List.Forall₂ (fun a b => R a.1 b.1 ∧ a.2 = b.2) (vs.zipIdx.map fun x => (x.1, base.index x.2))
      (vs'.zipIdx.map fun x => (x.1, base.index x.2)) := by
  rw [List.forall₂_map_left_iff, List.forall₂_map_right_iff]
  exact forall₂_zipIdx h (fun v v' i hv => ⟨hv, rfl⟩) 0

/-- One entity or several that are related are read as related entities, at the same places. -/
theorem agree_oneOrMany {R : Value → Value → Prop} (hR : ∀ v, R v v) (hE : ∀ e, E e e)
    (m m' : Mapping) {singular plural : String} (path : Path)
    (h : ∀ key ∈ [singular, plural],
      Option.Rel (Value.OneOrManyBy R) (m.get? key) (m'.get? key)) :
    Agree E (List.Forall₂ fun a b => R a.1 b.1 ∧ a.2 = b.2)
      (oneOrMany m singular plural path) (oneOrMany m' singular plural path) := by
  have hsame : ∀ items : List (Value × Path),
      List.Forall₂ (fun a b => R a.1 b.1 ∧ a.2 = b.2) items items :=
    fun items => List.forall₂_same.2 fun item _ => ⟨hR item.1, rfl⟩
  have hpresent := isPresent_eq_of_rel (fun _ _ => Value.OneOrManyBy.isNull_eq)
    (h singular (by simp))
  generalize hkey : (if isPresent m singular then singular else plural) = key
  have hkey' := hkey
  rw [hpresent] at hkey'
  have hmem : key ∈ [singular, plural] := by
    rw [← hkey]
    split_ifs <;> simp
  obtain ⟨hv, hv'⟩ | ⟨v, v', hv, hv', hrel⟩ := rel_cases (h key hmem)
  · unfold oneOrMany
    dsimp only
    rw [hkey, hkey', hv, hv']
    exact .ok .nil
  · cases hrel with
    | refl =>
      unfold oneOrMany
      dsimp only
      rw [hkey, hkey', hv, hv']
      exact .refl hE hsame _
    | one hentity hentity' h =>
      rw [oneOrMany_entity hentity hkey hv, oneOrMany_entity hentity' hkey' hv']
      exact .ok (.cons ⟨h, rfl⟩ .nil)
    | many h =>
      unfold oneOrMany
      dsimp only
      rw [hkey, hkey', hv, hv']
      exact .ok (forall₂_indexed h _)

/-- Optional values that are equal or related mappings are refused alike. -/
theorem agree_mapping_of {S : Mapping → Mapping → Prop} {V : Value → Value → Prop}
    {o o' : Option Value} (hS : ∀ m, S m m)
    (hE : ∀ v, E (.of path .mapping v) (.of path' .mapping v))
    (hV : ∀ v v', V v v' → v = v' ∨ ∃ m m', v = .mapping m ∧ v' = .mapping m' ∧ S m m')
    (h : Option.Rel V o o') : Agree E (Option.Rel S) (mapping o path) (mapping o' path') := by
  cases h with
  | none => exact .ok .none
  | @some v v' h =>
    obtain rfl | ⟨m, m', rfl, rfl, hm⟩ := hV v v' h
    · cases v with
      | null => exact .ok .none
      | mapping m => exact .ok (.some (hS m))
      | bool | number | text | list => exact .error (hE _)
    · exact .ok (.some hm)

/-- Optional mappings with related members are refused alike. -/
theorem agree_mapping {V : String → Value → Value → Prop} {o o' : Option Value}
    (hV : ∀ key v, V key v v) (hE : ∀ v, E (.of path .mapping v) (.of path' .mapping v))
    (h : Option.Rel (Value.MappingsBy V) o o') :
    Agree E (Option.Rel (Mapping.Varies V)) (mapping o path) (mapping o' path') := by
  refine agree_mapping_of (.refl hV) hE (fun v v' hv => ?_) h
  cases hv with
  | refl => exact .inl rfl
  | mappings hm => exact .inr ⟨_, _, rfl, rfl, hm⟩

end Field

/-- The keys of the connection lists in equipment documents. -/
def cableKeys : List String :=
  ["connections", "power_connections", "data_connections", "optional_connections"]

/-- The lists that are read from equipment documents are those under the keys of cables. -/
theorem Connection.map_fst_equipmentLists : equipmentLists.map Prod.fst = cableKeys := rfl

theorem Connection.mem_cableKeys {list : String × Category} (h : list ∈ equipmentLists) :
    list.1 ∈ cableKeys :=
  map_fst_equipmentLists ▸ List.mem_map_of_mem h

theorem CableCatalog.ofDocument_congr {m m' : Mapping}
    (h : m.get? "cable_types" = m'.get? "cable_types") : ofDocument m = ofDocument m' := by
  rw [ofDocument, ofDocument, h]

-- ════════════════════════════════════════════════════════════════════════
-- Devices
-- ════════════════════════════════════════════════════════════════════════

namespace Mapping.AlikeOff

variable {keys : List String} {m m' : Mapping}

theorem text (h : m.AlikeOff keys m') (key : String) (hkey : key ∉ keys) :
    Field.text m key = Field.text m' key :=
  Field.text_congr (h key hkey)

theorem firstText (h : m.AlikeOff keys m') (names : List String)
    (hnames : ∀ name ∈ names, name ∉ keys) : Field.firstText m names = Field.firstText m' names :=
  Field.firstText_congr fun name hname => h name (hnames name hname)

theorem listAlias (h : m.AlikeOff keys m') (names : List String)
    (hnames : ∀ name ∈ names, name ∉ keys) (path : Path) :
    Field.listAlias m names path = Field.listAlias m' names path :=
  Field.listAlias_congr (fun name hname => h name (hnames name hname)) path

theorem detailLines (h : m.AlikeOff keys m')
    (hnames : ∀ field ∈ Device.detailFields, field.1 ∉ keys) :
    Device.detailLines m = Device.detailLines m' :=
  List.filterMap_congr fun field hfield =>
    congrArg (Option.map fun v => field.2 ++ ": " ++ v) (h.text field.1 (hnames field hfield))

end Mapping.AlikeOff

/-- The fields in which a port says what it is connected to. -/
def Port.peerKeys : List String := ["connected_to", "connectedTo", "peer"]

/-- The fields that say at which unit a device is mounted. -/
def RackUnit.keys : List String := ["positionRange", "position_range", "position"]

theorem RackUnit.start_congr {m m' : Mapping} (h : ∀ key ∈ keys, m.get? key = m'.get? key) :
    start m = start m' := by
  unfold start ofRange? ofPosition?
  rw [h "positionRange" (by decide), h "position_range" (by decide), h "position" (by decide)]

/-- Devices at the same unit that differ in their ports at most are read alike up to their
    ports. -/
theorem Device.agree_ofMapping {E : StructureError → StructureError → Prop}
    {R : List Port → List Port → Prop} {m m' : Mapping} {path path' : Path} (parent : String)
    (index : Nat) (defaultType : String)
    (h : m.AlikeOff (["ports", "interfaces"] ++ RackUnit.keys) m')
    (hunit : RackUnit.start m = RackUnit.start m')
    (hports : Agree E R (Port.listIn m path) (Port.listIn m' path')) :
    Agree E (fun d d' => { d with ports := [] } = { d' with ports := [] } ∧ R d.ports d'.ports)
      (ofMapping m parent index path defaultType)
      (ofMapping m' parent index path' defaultType) := by
  refine hports.bind fun ports ports' hrel => .ok ⟨?_, hrel⟩
  have hcount : (m.get? "count").bind countOfValue? = (m'.get? "count").bind countOfValue? := by
    rw [← Mapping.bind_given? rfl, ← Mapping.bind_given? rfl, h "count" (by decide)]
  simp only [h.firstText ["id", "name", "hostname"] (by decide),
    h.firstText ["type", "device_type"] (by decide),
    h.firstText ["label", "name", "hostname"] (by decide),
    h.firstText ["zone", "group"] (by decide), h.text "model" (by decide),
    hunit, h.detailLines (by decide), hcount]

/-- Devices with the same unit and the same ports that are alike otherwise are read alike. -/
theorem Device.agree_ofMapping_eq {E : StructureError → StructureError → Prop} {m m' : Mapping}
    {path path' : Path} (parent : String) (index : Nat) (defaultType : String)
    (h : m.AlikeOff (["ports", "interfaces"] ++ RackUnit.keys) m')
    (hunit : RackUnit.start m = RackUnit.start m')
    (hports : Agree E Eq (Port.listIn m path) (Port.listIn m' path')) :
    Agree E Eq (ofMapping m parent index path defaultType)
      (ofMapping m' parent index path' defaultType) := by
  refine (agree_ofMapping parent index defaultType h hunit hports).mono fun d d' hd => ?_
  obtain ⟨hrest, hequal⟩ := hd
  rw [Device.mk.injEq] at hrest ⊢
  simpa [hequal] using hrest

end InfraDiagram
