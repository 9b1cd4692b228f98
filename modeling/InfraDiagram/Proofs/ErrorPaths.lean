import InfraDiagram.Proofs.Runs

/-!
# Where errors point

A document that cannot be drawn is refused with one error, which names the place of a value by the
steps that lead to it from the root. Each reader is given the path of what it reads and only ever
blames a part of it, so the steps lead to the value that was found. The one exception are the
servers of a rack that is given as a mapping: their paths leave out the step into `servers`.

## Main definitions

- `Value.follow?` — the value behind a sequence of steps
- `StructureError.IsAbout` — an error about the value behind some steps
- `Blames` — a reader whose errors are about parts of the value that it is given
- `StructureError.SkipsServers` — an error about a server of a rack that is given as a mapping

## Main statements

- `isAbout_iff_of_generate` — when the path of an error leads to the value that is refused
- `not_isAbout_rackMapping` — a server whose path leads nowhere
-/

namespace InfraDiagram

open Dot

-- ════════════════════════════════════════════════════════════════════════
-- Following paths
-- ════════════════════════════════════════════════════════════════════════

/-- The value behind a single step. -/
def Step.follow? : Step → Value → Option Value
  | .key name, .mapping members => Mapping.get? members name
  | .index position, .list items => items[position]?
  | _, _ => none

/-- The value behind a sequence of steps, if all of them can be made. -/
def Value.follow? (v : Value) (steps : List Step) : Option Value :=
  steps.foldlM (fun v step => step.follow? v) v

/-- The path that goes on by further steps. -/
def Path.walk (p : Path) (steps : List Step) : Path :=
  { p with steps := p.steps ++ steps }

/-- Whether a value is of one of the types that a shape names. -/
def Shape.admits : Shape → Value → Bool
  | .list, .list _ => true
  | .mapping, .mapping _ => true
  | .mappingOrList, .list _ | .mappingOrList, .mapping _ => true
  | .listOrMapping, .list _ | .listOrMapping, .mapping _ => true
  | _, _ => false

/-- The error is about the value behind the steps: what was found is its type, and it is of none of
    the types that were expected. -/
def StructureError.IsAbout (e : StructureError) (v : Value) (steps : List Step) : Prop :=
  ∃ w, v.follow? steps = some w ∧ w.typeName = e.found ∧ e.expected.admits w = false

theorem Value.follow?_append (v : Value) (steps rest : List Step) :
    v.follow? (steps ++ rest) = (v.follow? steps).bind fun w => w.follow? rest :=
  List.foldlM_append

theorem Value.follow?_cons (v : Value) (step : Step) (rest : List Step) :
    v.follow? (step :: rest) = (step.follow? v).bind fun w => w.follow? rest :=
  List.foldlM_cons

theorem Value.follow?_key {m : Mapping} {key : String} {w : Value} (h : m.get? key = some w) :
    (Value.mapping m).follow? [.key key] = some w := by
  rw [follow?_cons]
  exact congrArg (Option.bind · fun w => w.follow? []) h

theorem Value.follow?_index {items : List Value} {i : Nat} {w : Value} (h : items[i]? = some w) :
    (Value.list items).follow? [.index i] = some w := by
  rw [follow?_cons]
  exact congrArg (Option.bind · fun w => w.follow? []) h

theorem Path.walk_walk (p : Path) (steps rest : List Step) :
    (p.walk steps).walk rest = p.walk (steps ++ rest) := by
  simp only [walk, List.append_assoc]

-- ════════════════════════════════════════════════════════════════════════
-- Readers that blame what they read
-- ════════════════════════════════════════════════════════════════════════

theorem exists_of_mapM_eq_error {α β ε : Type} {f : α → Except ε β} {xs : List α} {e : ε}
    (h : xs.mapM f = .error e) : ∃ x ∈ xs, f x = .error e := by
  induction xs with
  | nil => cases h
  | cons x xs ih =>
    rw [List.mapM_cons] at h
    cases hx : f x with
    | error e' =>
      rw [hx] at h
      cases h
      exact ⟨x, by simp, hx⟩
    | ok y =>
      rw [hx] at h
      cases hxs : xs.mapM f with
      | error e' =>
        obtain ⟨x', hmem, hfx⟩ := ih (by
          simp only [hxs, bind, Except.bind, Except.error.injEq] at h
          rw [hxs, h])
        exact ⟨x', by simp [hmem], hfx⟩
      | ok ys =>
        rw [hxs] at h
        cases h

theorem exists_of_foldlM_eq_error {α β ε : Type} {f : β → α → Except ε β} {xs : List α} {b : β}
    {e : ε} (h : xs.foldlM f b = .error e) : ∃ b', ∃ x ∈ xs, f b' x = .error e := by
  induction xs generalizing b with
  | nil => cases h
  | cons x xs ih =>
    rw [List.foldlM_cons] at h
    cases hx : f b x with
    | error e' =>
      rw [hx] at h
      cases h
      exact ⟨b, x, by simp, hx⟩
    | ok b' =>
      rw [hx] at h
      obtain ⟨b'', x', hmem, hfx⟩ := ih h
      exact ⟨b'', x', by simp [hmem], hfx⟩

/-- Every error of the reading `r` is about a part of the value `v`, which stands at the path
    `p`. -/
def Blames {α : Type} (v : Value) (p : Path) (r : Except StructureError α) : Prop :=
  ∀ e, r = .error e → ∃ rest, e.path = p.walk rest ∧ e.IsAbout v rest

namespace Blames

variable {α β : Type} {v w : Value} {p : Path} {r : Except StructureError α}

theorem ok (a : α) : Blames v p (.ok a : Except StructureError α) :=
  fun _ h => by cases h

/-- A value that is refused where it stands. -/
theorem refused {expected : Shape} (h : expected.admits v = false) :
    Blames v p (.error (.of p expected v) : Except StructureError α) := by
  intro e he
  cases he
  exact ⟨[], by simp [Path.walk, StructureError.of], v, rfl, rfl, h⟩

/-- What is about a part of a part is about a part of the whole. -/
theorem descend {steps : List Step} (hw : v.follow? steps = some w)
    (h : Blames w (p.walk steps) r) : Blames v p r := by
  intro e he
  obtain ⟨rest, hpath, u, hu, htype, hexpected⟩ := h e he
  refine ⟨steps ++ rest, hpath.trans (p.walk_walk steps rest), u, ?_, htype, hexpected⟩
  rw [v.follow?_append, hw]
  exact hu

theorem key {m : Mapping} {name : String} (hw : m.get? name = some w)
    (h : Blames w (p.key name) r) : Blames (.mapping m) p r :=
  descend (Value.follow?_key hw) h

theorem index {items : List Value} {i : Nat} (hw : items[i]? = some w)
    (h : Blames w (p.index i) r) : Blames (.list items) p r :=
  descend (Value.follow?_index hw) h

theorem bind {f : α → Except StructureError β} (hr : Blames v p r)
    (hf : ∀ a, r = .ok a → Blames v p (f a)) : Blames v p (r >>= f) := by
  intro e he
  cases hra : r with
  | error e' =>
    rw [hra] at he
    cases he
    exact hr e hra
  | ok a =>
    rw [hra] at he
    exact hf a hra e he

theorem map {f : α → β} (hr : Blames v p r) : Blames v p (r.map f) := by
  intro e he
  cases hra : r with
  | error e' =>
    rw [hra] at he
    cases he
    exact hr e hra
  | ok a =>
    rw [hra] at he
    cases he

theorem mapM {f : α → Except StructureError β} {xs : List α} (h : ∀ x ∈ xs, Blames v p (f x)) :
    Blames v p (xs.mapM f) := by
  intro e he
  obtain ⟨x, hx, hfx⟩ := exists_of_mapM_eq_error he
  exact h x hx e hfx

/-- The items of a list, each of which is read where it stands. -/
theorem items {items : List Value} {f : Value × Nat → Except StructureError β}
    (h : ∀ w i, Blames w (p.index i) (f (w, i))) : Blames (.list items) p (items.zipIdx.mapM f) :=
  mapM fun x hx => index (List.mem_zipIdx_iff_getElem?.1 hx) (h x.1 x.2)

end Blames

-- ════════════════════════════════════════════════════════════════════════
-- Fields
-- ════════════════════════════════════════════════════════════════════════

namespace Field

theorem blames_list (m : Mapping) (key : String) (p : Path) :
    Blames (.mapping m) p (Field.list m key p) := by
  unfold Field.list
  split
  · exact .ok []
  · exact .ok []
  · exact .ok _
  · rename_i other _ hlist hother
    refine .key hother (.refused ?_)
    cases other with
    | list items => exact absurd rfl (hlist items)
    | _ => rfl

theorem get?_of_list {m : Mapping} {key : String} {p : Path} {items : List Value}
    (h : Field.list m key p = .ok items) : items = [] ∨ m.get? key = some (.list items) := by
  unfold Field.list at h
  split at h
  · exact .inl (Except.ok.inj h).symm
  · exact .inl (Except.ok.inj h).symm
  · rename_i hitems
    exact .inr (Except.ok.inj h ▸ hitems)
  · cases h

theorem blames_listAlias (m : Mapping) (keys : List String) (p : Path) :
    Blames (.mapping m) p (listAlias m keys p) := by
  unfold listAlias
  split
  · exact (blames_list m _ p).map
  · exact .ok _

/-- A reader of items under one of several keys. -/
theorem blames_listAlias_bind {β : Type} {m : Mapping} {keys : List String} {p : Path}
    {f : List Value × Path → Except StructureError β}
    (h : ∀ items q, Blames (.list items) q (f (items, q)))
    (hnil : ∀ q, Blames (.mapping m) p (f ([], q))) :
    Blames (.mapping m) p (listAlias m keys p >>= f) := by
  refine (blames_listAlias m keys p).bind fun found hfound => ?_
  unfold listAlias at hfound
  split at hfound
  · rename_i key _
    cases hlist : Field.list m key p with
    | error e => simp [hlist, Except.map] at hfound
    | ok items =>
      simp only [hlist, Except.map, Except.ok.injEq] at hfound
      rw [← hfound]
      rcases get?_of_list hlist with rfl | hkey
      · exact hnil _
      · exact .key hkey (h items _)
  · rw [← Except.ok.inj hfound]
    exact hnil _

theorem blames_mapping (m : Mapping) (key : String) (p : Path) :
    Blames (.mapping m) p (Field.mapping (m.get? key) (p.key key)) := by
  unfold Field.mapping
  split
  · exact .ok none
  · exact .ok none
  · exact .ok _
  · rename_i other _ hmapping hother
    refine .key hother (.refused ?_)
    cases other with
    | mapping members => exact absurd rfl (hmapping members)
    | _ => rfl

theorem get?_of_mapping {value : Option Value} {p : Path} {m : Mapping}
    (h : Field.mapping value p = .ok (some m)) : value = some (.mapping m) := by
  obtain ⟨v, hv, hm⟩ := Option.bind_eq_some_iff.1 (mapping_eq_ok h).symm
  cases v with
  | mapping members =>
    rw [hv, Option.some.inj hm]
  | _ => cases hm

end Field

-- ════════════════════════════════════════════════════════════════════════
-- Entities
-- ════════════════════════════════════════════════════════════════════════

theorem Port.blames_ofValue (v : Value) (i : Nat) (p : Path) : Blames v p (Port.ofValue v i p) := by
  cases v with
  | text | mapping => exact .ok _
  | _ => exact .refused rfl

theorem Port.blames_listIn (m : Mapping) (p : Path) : Blames (.mapping m) p (Port.listIn m p) :=
  Field.blames_listAlias_bind (fun _ q => .items fun w i => Port.blames_ofValue w i (q.index i))
    fun _ => .ok []

theorem Device.blames_ofMapping (m : Mapping) (parent : String) (i : Nat) (p : Path)
    (type : String) : Blames (.mapping m) p (Device.ofMapping m parent i p type) :=
  (Port.blames_listIn m p).bind fun _ _ => .ok _

theorem Device.blames_ofValue (v : Value) (parent : String) (i : Nat) (p : Path) (type : String) :
    Blames v p (Device.ofValue v parent i p type) := by
  cases v with
  | mapping m => exact Device.blames_ofMapping m parent i p type
  | text => exact .ok _
  | _ => exact .refused rfl

theorem Device.blames_listIn (m : Mapping) (keys : List String) (parent : String) (p : Path)
    (type : String) : Blames (.mapping m) p (Device.listIn m keys parent p type) :=
  Field.blames_listAlias_bind
    (fun _ q => .items fun w i => Device.blames_ofValue w parent i (q.index i) type) fun _ => .ok []

theorem Rack.blames_ofValue (v : Value) (i : Nat) (p : Path) : Blames v p (Rack.ofValue v i p) := by
  cases v with
  | mapping m => exact (Device.blames_listIn m _ _ p _).bind fun _ _ => .ok _
  | text => exact .ok _
  | _ => exact .refused rfl

theorem Site.blames_ofValue (v : Value) (defaultId : String) (p : Path) :
    Blames v p (Site.ofValue v defaultId p) := by
  cases v with
  | mapping | text => exact .ok _
  | _ => exact .refused rfl

/-- The entities of a field stand where their paths say. -/
theorem Field.follow?_of_oneOrMany {m : Mapping} {singular plural : String} {p : Path}
    {entities : List (Value × Path)} (h : oneOrMany m singular plural p = .ok entities) :
    ∀ x ∈ entities, ∃ steps, x.2 = p.walk steps ∧ (Value.mapping m).follow? steps = some x.1 := by
  unfold oneOrMany at h
  generalize (if isPresent m singular then singular else plural) = key at h
  dsimp only at h
  split at h
  · cases h
    simp
  · cases h
    simp
  · rename_i items hitems
    cases h
    intro x hx
    obtain ⟨⟨w, i⟩, hmem, rfl⟩ := List.mem_map.1 hx
    refine ⟨[.key key, .index i], ?_, ?_⟩
    · simp [Path.walk, Path.key, Path.index]
    · rw [Value.follow?_cons, Step.follow?, hitems]
      exact Value.follow?_index (List.mem_zipIdx_iff_getElem?.1 hmem)
  · rename_i entity hentity
    cases h
    simpa using ⟨_, rfl, Value.follow?_key hentity⟩
  · rename_i id hid
    cases h
    simpa using ⟨_, rfl, Value.follow?_key hid⟩
  · cases h

theorem Field.blames_oneOrMany (m : Mapping) (singular plural : String) (p : Path) :
    Blames (.mapping m) p (oneOrMany m singular plural p) := by
  unfold oneOrMany
  dsimp only
  split
  · exact .ok []
  · exact .ok []
  · exact .ok _
  · exact .ok _
  · exact .ok _
  · rename_i other _ hlist hmapping _ hother
    refine .key hother (.refused ?_)
    cases other with
    | list items => exact absurd rfl (hlist items)
    | mapping members => exact absurd rfl (hmapping members)
    | _ => rfl

/-- Entities that are read one by one, each with its number. -/
theorem Field.blames_entities {β : Type} {m : Mapping} {singular plural : String} {p : Path}
    {f : (Value × Path) × Nat → Except StructureError β}
    (h : ∀ v q i, Blames v q (f ((v, q), i))) :
    Blames (.mapping m) p
      (oneOrMany m singular plural p >>= fun entities => entities.zipIdx.mapM f) := by
  refine (blames_oneOrMany m singular plural p).bind fun entities hentities => .mapM fun x hx => ?_
  obtain ⟨⟨v, q⟩, i⟩ := x
  obtain ⟨steps, hq, hv⟩ := follow?_of_oneOrMany hentities (v, q)
    (List.mem_of_getElem? (List.mem_zipIdx_iff_getElem?.1 hx))
  exact .descend hv (hq ▸ h v q i)

theorem Rack.blames_ofDocument (doc : Mapping) :
    Blames (.mapping doc) .root (Rack.ofDocument doc) :=
  Field.blames_entities fun v q i => Rack.blames_ofValue v i q

theorem Site.blames_ofDocument (doc : Mapping) :
    Blames (.mapping doc) .root (Site.ofDocument doc) := by
  refine (Field.blames_list doc "sites" .root).bind fun items hitems => ?_
  rcases Field.get?_of_list hitems with rfl | hsites
  · exact .ok []
  · exact .key hsites (.items fun w i => Site.blames_ofValue w _ _)

theorem Site.blames_header (doc : Mapping) : Blames (.mapping doc) .root (Site.header doc) := by
  unfold Site.header
  split
  · exact .ok none
  · exact .ok none
  · rename_i value _ hvalue
    exact .key hvalue (Site.blames_ofValue value _ _).map

theorem Connection.blames_ofEquipment (doc : Mapping) (catalog : CableCatalog) :
    Blames (.mapping doc) .root (Connection.ofEquipment doc catalog) :=
  (Blames.mapM fun list _ => (Field.blames_list doc list.1 .root).bind fun _ _ => .ok _).bind
    fun _ _ => .ok _

-- ════════════════════════════════════════════════════════════════════════
-- Servers by rack
-- ════════════════════════════════════════════════════════════════════════

theorem Mapping.get?_of_mem {m : Mapping} (hm : m.DistinctKeys) {key : String} {v : Value}
    (h : (key, v) ∈ m) : m.get? key = some v := by
  induction m with
  | nil => cases h
  | cons member rest ih =>
    obtain ⟨first, w⟩ := member
    obtain ⟨hfirst, hrest⟩ := List.nodup_cons.1 hm
    rw [get?, List.lookup_cons]
    rcases List.mem_cons.1 h with heq | hmem
    · cases heq
      simp
    · have hkey : key ∈ rest.map Prod.fst := List.mem_map_of_mem hmem
      have hne : key ≠ first := fun heq => hfirst (heq ▸ hkey)
      rw [beq_eq_false_iff_ne.2 hne]
      exact ih hrest hmem

/-- What the written steps leave out of the full ones: the step into the servers of a rack. -/
def OmitsServers (written full : List Step) : Prop :=
  ∃ rack i rest, written = .key "rack_servers" :: .key rack :: .index i :: rest ∧
    full = .key "rack_servers" :: .key rack :: .key "servers" :: .index i :: rest

/-- The error is about a value of the document. The path is written from the root, and its steps
    are those to the value, up to the step into the servers of a rack. -/
structure StructureError.PointsInto (e : StructureError) (doc : Value) : Prop where
  text : e.path.text = "$" ++ String.join (e.path.steps.map Step.text)
  steps : ∃ steps, e.IsAbout doc steps ∧
    (e.path.steps = steps ∨ OmitsServers e.path.steps steps)

theorem Blames.pointsInto {α : Type} {v : Value} {r : Except StructureError α}
    (h : Blames v .root r) {e : StructureError} (he : r = .error e) : e.PointsInto v := by
  obtain ⟨rest, hpath, habout⟩ := h e he
  exact {
    text := by rw [hpath]; rfl
    steps := ⟨rest, habout, .inl (by rw [hpath]; rfl)⟩ }

namespace Rack

theorem blames_serverEntry (entry : Value) (p : Path) : Blames entry p (serverEntry entry p) := by
  cases entry with
  | null | list => exact .ok _
  | mapping m => exact (Field.blames_list m "servers" p).map
  | _ => exact .refused rfl

/-- Where the servers of an entry are found. -/
theorem follow?_of_serverEntry {entry : Value} {p : Path} {items : List Value}
    {label : Option String} (h : serverEntry entry p = .ok (items, label)) :
    items = [] ∨ entry = .list items ∨ entry.follow? [.key "servers"] = some (.list items) := by
  cases entry with
  | null =>
    cases h
    exact .inl rfl
  | list =>
    cases h
    exact .inr (.inl rfl)
  | mapping m =>
    cases hlist : Field.list m "servers" p with
    | error e => simp [serverEntry, hlist, Except.map] at h
    | ok found =>
      simp only [serverEntry, hlist, Except.map, Except.ok.injEq, Prod.mk.injEq] at h
      rw [← h.1]
      exact (Field.get?_of_list hlist).imp_right fun hservers =>
        .inr (Value.follow?_key hservers)
  | _ => cases h

/-- An error about an entry is about a part of it where its path says, or about a server behind
    the step that its path leaves out. -/
theorem isAbout_of_mountEntry {racks : List Rack} {id : String} {entry : Value}
    {e : StructureError} (h : mountEntry racks (id, entry) = .error e) :
    ∃ rest, e.path = ((Path.root.key "rack_servers").key id).walk rest ∧
      (e.IsAbout entry rest ∨ ∃ i more, rest = .index i :: more ∧
        e.IsAbout entry (.key "servers" :: rest)) := by
  generalize hp : (Path.root.key "rack_servers").key id = p
  simp only [mountEntry, hp] at h
  cases hentry : serverEntry entry p with
  | error e' =>
    rw [hentry] at h
    cases h
    obtain ⟨rest, hpath, habout⟩ := blames_serverEntry entry p e hentry
    exact ⟨rest, hpath, .inl habout⟩
  | ok found =>
    obtain ⟨items, label⟩ := found
    rw [hentry] at h
    change (mountedServers id items p _ >>= fun devices => .ok (mount id (label.getD id) devices
      racks)) = .error e at h
    cases hservers : mountedServers id items p ((devicesOf racks id).getD []).length with
    | ok devices =>
      rw [hservers] at h
      cases h
    | error e' =>
      rw [hservers] at h
      cases h
      obtain ⟨⟨w, i⟩, hmem, hw⟩ := exists_of_mapM_eq_error hservers
      have hitem := List.mem_zipIdx_iff_getElem?.1 hmem
      obtain ⟨more, hpath, u, hu, hfound⟩ := Device.blames_ofValue _ _ _ _ _ e hw
      refine ⟨.index i :: more, hpath.trans (p.walk_walk [.index i] more), ?_⟩
      have hlist : (Value.list items).follow? (.index i :: more) = some u := by
        rw [Value.follow?_cons, Step.follow?, hitem]
        exact hu
      rcases follow?_of_serverEntry hentry with rfl | rfl | hinside
      · simp at hitem
      · exact .inl ⟨u, hlist, hfound⟩
      · refine .inr ⟨i, more, rfl, u, ?_, hfound⟩
        rw [← List.singleton_append, Value.follow?_append, hinside]
        exact hlist

theorem pointsInto_of_ofServerDocument {doc : Mapping}
    (hdoc : ∀ entries, doc.get? "rack_servers" = some (.mapping entries) →
      Mapping.DistinctKeys entries) {e : StructureError}
    (h : ofServerDocument doc = .error e) : e.PointsInto (.mapping doc) := by
  unfold ofServerDocument at h
  cases hracks : ofDocument doc with
  | error e' =>
    rw [hracks] at h
    cases h
    exact (blames_ofDocument doc).pointsInto hracks
  | ok racks =>
    cases hmarker : Field.mapping (doc.get? "rack_servers") (Path.root.key "rack_servers") with
    | error e' =>
      simp only [hracks, hmarker, bind, Except.bind, Except.error.injEq] at h
      exact (Field.blames_mapping doc "rack_servers" .root).pointsInto (h ▸ hmarker)
    | ok marker =>
      cases marker with
      | none => simp [hracks, hmarker, bind, Except.bind, pure, Except.pure] at h
      | some entries =>
        simp only [hracks, hmarker, bind, Except.bind] at h
        have hentries := Field.get?_of_mapping hmarker
        obtain ⟨racks', ⟨id, entry⟩, hmem, hentry⟩ := exists_of_foldlM_eq_error h
        have hget := Mapping.get?_of_mem (hdoc entries hentries) hmem
        -- the two steps to the entry come first, whatever is wrong with it
        have hfollow : ∀ rest, (Value.mapping doc).follow?
            (.key "rack_servers" :: .key id :: rest) = entry.follow? rest := by
          intro rest
          rw [Value.follow?_cons, Step.follow?, hentries, Option.bind_some, Value.follow?_cons,
            Step.follow?, hget, Option.bind_some]
        obtain ⟨rest, hpath, habout⟩ := isAbout_of_mountEntry hentry
        have hsteps : e.path.steps = .key "rack_servers" :: .key id :: rest := by
          rw [hpath]
          rfl
        refine ⟨by rw [hpath]; rfl, ?_⟩
        rcases habout with ⟨w, hw, hfound⟩ | ⟨i, more, rfl, w, hw, hfound⟩
        · exact ⟨_, ⟨w, (hfollow rest).trans hw, hfound⟩, .inl hsteps⟩
        · exact ⟨_, ⟨w, (hfollow _).trans hw, hfound⟩, .inr ⟨id, i, more, hsteps, rfl⟩⟩

end Rack

-- ════════════════════════════════════════════════════════════════════════
-- Documents
-- ════════════════════════════════════════════════════════════════════════

namespace Plan

variable (doc : Mapping) (options : RenderOptions)

theorem blames_sites : Blames (.mapping doc) .root (Plan.sites doc).scene :=
  (Site.blames_ofDocument doc).bind fun _ _ =>
    (Field.blames_list doc "connections" .root).bind fun _ _ => .ok _

theorem blames_siteEquipment : Blames (.mapping doc) .root (Plan.siteEquipment doc options).scene :=
  (Rack.blames_ofDocument doc).bind fun _ _ =>
    (Site.blames_header doc).bind fun _ _ =>
      (Connection.blames_ofEquipment doc _).bind fun _ _ => .ok _

theorem blames_serverDetails :
    Blames (.mapping doc) .root (Plan.serverDetails doc options).scene := by
  have hservers : Blames (.mapping doc) .root
      (Field.oneOrMany doc "server" "servers" .root >>= fun entities =>
        entities.zipIdx.mapM fun x => Device.ofValue x.1.1 "server" x.2 x.1.2 "server") :=
    Field.blames_entities fun v q i => Device.blames_ofValue v "server" i q "server"
  have hscene := hservers.bind (f := fun servers => do
    let peers ← Device.listIn doc ["devices", "peers"] "peer" .root "device"
    let cabling ← Connection.ofEquipment doc (.ofDocument doc)
    return ({
      nodes := drawServers servers peers options
      resolver := .ofDevices (servers ++ peers)
      links := cabling
      portLinks := InfraDiagram.portLinks servers } : Scene)) fun _ _ =>
    (Device.blames_listIn doc _ _ .root _).bind fun _ _ =>
      (Connection.blames_ofEquipment doc _).bind fun _ _ => .ok _
  rw [bind_assoc] at hscene
  exact hscene

theorem blames_topology : Blames (.mapping doc) .root (Plan.topology doc).scene := by
  unfold Plan.topology
  split
  · rename_i e hmarker
    have hblames := Field.blames_mapping doc "topology" .root
    rw [hmarker] at hblames
    intro e' he'
    cases he'
    exact hblames e rfl
  · exact .ok _
  · rename_i topology hmarker
    have hget := Field.get?_of_mapping hmarker
    refine Blames.bind (.key hget (Device.blames_listIn topology _ _ _ _)) fun _ _ => ?_
    refine Blames.bind (.key hget (Field.blames_listAlias topology _ _)) fun _ _ => ?_
    exact (Field.blames_list doc "connections" .root).bind fun _ _ => .ok _

theorem blames_device : Blames (.mapping doc) .root (Plan.device doc options).scene := by
  unfold Plan.device
  split
  · exact .ok _
  · exact .ok _
  · rename_i value _ hvalue
    exact Blames.bind (.key hvalue (Device.blames_ofValue value _ _ _ _)) fun _ _ =>
      (Field.blames_list doc "connections" .root).bind fun _ _ => .ok _

theorem blames_links : Blames (.mapping doc) .root (Plan.links doc).scene :=
  (Field.blames_list doc "links" .root).bind fun _ _ =>
    (Device.blames_listIn doc _ _ .root _).bind fun _ _ => .ok _

theorem blames_intent : Blames (.mapping doc) .root (Plan.intent doc).scene := by
  refine (Field.blames_mapping doc "intent" .root).bind fun marker hmarker => ?_
  cases marker with
  | none => exact .ok _
  | some intent =>
    have hget := Field.get?_of_mapping hmarker
    refine Blames.bind (.key hget (Device.blames_listIn intent _ _ _ _)) fun _ _ => ?_
    refine Blames.bind (.key hget (Field.blames_listAlias intent _ _)) fun _ _ => ?_
    exact Blames.bind (.key hget (Field.blames_listAlias intent _ _)) fun _ _ => .ok _

end Plan

/-- The error of a plan is about a value of the document. -/
theorem pointsInto_of_scene {kind : Kind} {doc : Mapping} {options : RenderOptions}
    (hdoc : ∀ entries, doc.get? "rack_servers" = some (.mapping entries) →
      Mapping.DistinctKeys entries) {e : StructureError}
    (h : (Plan.ofKind kind doc options).scene = .error e) : e.PointsInto (.mapping doc) := by
  cases kind with
  | siteTopology => exact (Plan.blames_sites doc).pointsInto h
  | siteEquipment => exact (Plan.blames_siteEquipment doc options).pointsInto h
  | serverDetails => exact (Plan.blames_serverDetails doc options).pointsInto h
  | topology => exact (Plan.blames_topology doc).pointsInto h
  | device => exact (Plan.blames_device doc options).pointsInto h
  | links => exact (Plan.blames_links doc).pointsInto h
  | intent => exact (Plan.blames_intent doc).pointsInto h
  | unknown => cases h
  | rackServers =>
    cases hracks : Rack.ofServerDocument doc with
    | error e' =>
      have hscene : (Plan.rackServers doc options).scene = .error e := h
      simp only [Plan.rackServers, Plan.ofScene, hracks, bind, Except.bind,
        Except.error.injEq] at hscene
      exact Rack.pointsInto_of_ofServerDocument hdoc (hscene ▸ hracks)
    | ok racks =>
      have hcabling := (Connection.blames_ofEquipment doc (.ofDocument doc)).bind
        (f := fun cabling => (.ok {
          nodes := drawRackDiagram none racks .server options
          resolver := .ofRacks racks
          links := cabling
          portLinks := [] } : Except StructureError Scene)) fun _ _ => .ok _
      have hscene : (Plan.rackServers doc options).scene = .error e := h
      simp only [Plan.rackServers, Plan.ofScene, hracks] at hscene
      exact hcabling.pointsInto hscene

/-- The error is about a server of a rack that is given as a mapping. -/
def StructureError.SkipsServers (e : StructureError) (doc : Value) : Prop :=
  ∃ rack members i rest,
    doc.follow? [.key "rack_servers", .key rack] = some (.mapping members) ∧
      e.path.steps = .key "rack_servers" :: .key rack :: .index i :: rest

/-- The path of such an error leads nowhere, and that of any other error leads to the value. -/
theorem StructureError.PointsInto.isAbout_iff {e : StructureError} {doc : Value}
    (h : e.PointsInto doc) : e.IsAbout doc e.path.steps ↔ ¬ e.SkipsServers doc := by
  have hentry : ∀ rack rest, doc.follow? (.key "rack_servers" :: .key rack :: rest) =
      (doc.follow? [.key "rack_servers", .key rack]).bind fun entry => entry.follow? rest :=
    fun rack rest => doc.follow?_append [.key "rack_servers", .key rack] rest
  constructor
  · rintro ⟨w, hw, -⟩ ⟨rack, members, i, rest, hrack, hsteps⟩
    rw [hsteps, hentry, hrack, Option.bind_some, Value.follow?_cons] at hw
    cases hw
  · intro hskips
    obtain ⟨steps, habout, hsame | ⟨rack, i, rest, hwritten, rfl⟩⟩ := h.steps
    · rwa [hsame]
    · obtain ⟨w, hw, -⟩ := habout
      rw [hentry] at hw
      obtain ⟨entry, hrack, hservers⟩ := Option.bind_eq_some_iff.1 hw
      -- only a mapping has servers
      cases entry with
      | mapping members => exact absurd ⟨rack, members, i, rest, hrack, hwritten⟩ hskips
      | _ =>
        rw [Value.follow?_cons] at hservers
        cases hservers

/-- **Where errors point.** The error that refuses a document is always about one of its values,
    which is of another type than was expected. Its path leads to this value, except that it leaves
    out the step into `servers` where a rack is given as a mapping, and then leads nowhere. -/
theorem isAbout_iff_of_generate {doc : Value} {options : RenderOptions} {e : StructureError}
    (hdoc : ∀ entries, doc.follow? [.key "rack_servers"] = some (.mapping entries) →
      Mapping.DistinctKeys entries)
    (h : generate doc options = .error e) :
    e.PointsInto doc ∧ (e.IsAbout doc e.path.steps ↔ ¬ e.SkipsServers doc) := by
  suffices hpoints : e.PointsInto doc from ⟨hpoints, hpoints.isAbout_iff⟩
  cases doc with
  | mapping m =>
    exact pointsInto_of_scene (fun entries hentries => hdoc entries (Value.follow?_key hentries))
      (scene_eq_error_of_generate h)
  | _ => exact Blames.pointsInto (.refused rfl) h

/-- A port that is a number, deep inside of the equipment of a rack. -/
def misplaced : Value :=
  .mapping [
    ("racks", .list [.mapping [("equipment", .list [.text "a", .mapping [
      ("interfaces", .list [.text "1", .number (.int 2)])]])]]),
    ("rack_servers", .mapping [("r", .list [])])]

theorem isAbout_misplaced : ∃ e, generate misplaced .standard = .error e ∧
    e.path.text = "$.racks[0].equipment[1].interfaces[1]" ∧
    e.PointsInto misplaced ∧ (e.IsAbout misplaced e.path.steps ↔ ¬ e.SkipsServers misplaced) := by
  have herror : (match generate misplaced .standard with
      | .error e => some e.path.text
      | .ok _ => none) = some "$.racks[0].equipment[1].interfaces[1]" := by decide +kernel
  cases hg : generate misplaced .standard with
  | ok g => simp [hg] at herror
  | error e =>
    refine ⟨e, rfl, by simpa [hg] using herror, isAbout_iff_of_generate ?_ hg⟩
    intro entries hentries
    have hone : entries = [("r", .list [])] :=
      (Value.mapping.inj (Option.some.inj hentries)).symm
    rw [hone, Mapping.DistinctKeys]
    decide

/-- A rack that is given as a mapping, with a number for a server. -/
def rackMapping : Value :=
  .mapping [("rack_servers", .mapping [("r", .mapping [("servers", .list [.number (.int 1)])])])]

theorem steps_of_follow?_rackMapping {steps : List Step} {w : Value}
    (h : rackMapping.follow? steps = some w) (hw : w.typeName = "number") :
    steps = [.key "rack_servers", .key "r", .key "servers", .index 0] := by
  -- every container on the way has a single part, and none of them is a number
  have hkey : ∀ (name : String) (v : Value) (steps : List Step),
      (Value.mapping [(name, v)]).follow? steps = some w →
        ∃ rest, steps = .key name :: rest ∧ v.follow? rest = some w := by
    intro name v steps h
    rcases steps with _ | ⟨other | _, rest⟩
    · cases h
      simp [Value.typeName] at hw
    · rw [Value.follow?_cons, Step.follow?, Mapping.get?, List.lookup_cons] at h
      by_cases hother : other = name
      · rw [beq_iff_eq.2 hother] at h
        exact ⟨rest, by rw [hother], h⟩
      · rw [beq_eq_false_iff_ne.2 hother] at h
        cases h
    · cases h
  obtain ⟨atRacks, rfl, hracks⟩ := hkey _ _ _ h
  obtain ⟨atRack, rfl, hrack⟩ := hkey _ _ _ hracks
  obtain ⟨atServers, rfl, hservers⟩ := hkey _ _ _ hrack
  rcases atServers with _ | ⟨_ | i, rest⟩
  · cases hservers
    simp [Value.typeName] at hw
  · cases hservers
  · rcases i with _ | i
    · rcases rest with _ | ⟨_ | _, rest⟩
      · rfl
      · cases hservers
      · cases hservers
    · cases hservers

/-- The number stands at `$.rack_servers.r.servers[0]`, but the error names a place that no steps
    lead to. -/
theorem not_isAbout_rackMapping : ∃ e, generate rackMapping .standard = .error e ∧
    e.message =
      "structurally invalid document at $.rack_servers.r[0]: expected mapping, found number" ∧
    ¬ ∃ steps, "$" ++ String.join (steps.map Step.text) = e.path.text ∧
      e.IsAbout rackMapping steps := by
  have herror : (match generate rackMapping .standard with
      | .error e => some e
      | .ok _ => none) =
      some ⟨⟨"$", [.key "rack_servers", .key "r", .index 0]⟩, .mapping, "number"⟩ := by
    decide +kernel
  cases hg : generate rackMapping .standard with
  | ok g => simp [hg] at herror
  | error e =>
    simp only [hg, Option.some.injEq] at herror
    subst herror
    refine ⟨_, rfl, by decide +kernel, ?_⟩
    rintro ⟨steps, htext, w, hw, hfound, -⟩
    rw [steps_of_follow?_rackMapping hw hfound] at htext
    revert htext
    decide +kernel

end InfraDiagram
