import InfraDiagram.Proofs.Documents
import InfraDiagram.Proofs.RevisedDocuments

/-!
# Null fields

A null member of an entity, a connection record or an end says nothing: without it the document is
drawn in the same way, or refused with the same error. The exception are fields of which the first
name that is present is read, whatever it holds. There a null hides what stands under another name.

## Main definitions

- `Mapping.Hides` — a null in front of another name of the same field
- `Mapping.Dropped` — a mapping without one of its null members
- `Revision.droppingAny` — null members are dropped from entities, records and ends
- `Revision.droppingHarmless` — they are, unless they hide something

## Main statements

- `isRead_droppingHarmless` — everything is read alike without null members that hide nothing
- `generate_eq_of_dropped` — documents are drawn alike without null members that hide nothing
- `Connection.ofRecord_of_hidden` — a null that hides the source of a record makes it malformed
- `not_generate_eq_hiddenSource` — a document is not drawn alike without a null that hides an end

## Design notes

A scalar, a list or the device of an end is looked for under each of its names until one of them
holds something. The ends of a record, the peer of a port and the range of a device are taken from
the first of their names that is present.
-/

namespace InfraDiagram

open Connection

-- ════════════════════════════════════════════════════════════════════════
-- Mappings without a null member
-- ════════════════════════════════════════════════════════════════════════

namespace Mapping

/-- The key is the first one present among the names of a field, and another of these names holds
    something. -/
def Hides (names : List String) (key : String) (m : Mapping) : Prop :=
  names.find? m.contains = some key ∧
    ∃ other ∈ names, other ≠ key ∧ Field.isPresent m other = true

instance (names : List String) (key : String) (m : Mapping) : Decidable (m.Hides names key) :=
  inferInstanceAs (Decidable (_ ∧ _))

/-- Where a null hides something, nothing is read. -/
theorem Hides.bind_findSome? {α : Type} {f : Value → Option α} (hf : f .null = none)
    {names : List String} {key : String} {m : Mapping} (h : m.Hides names key)
    (hnull : m.get? key = some .null) : (names.findSome? m.get?).bind f = none := by
  obtain ⟨hfirst, -⟩ := h
  induction names with
  | nil => rfl
  | cons name names ih =>
    rw [List.find?_cons, contains] at hfirst
    rw [List.findSome?_cons]
    cases hget : m.get? name with
    | none =>
      rw [hget] at hfirst
      exact ih hfirst
    | some v =>
      rw [hget] at hfirst
      obtain rfl : name = key := Option.some.inj hfirst
      rw [hnull] at hget
      obtain rfl : v = .null := (Option.some.inj hget).symm
      exact hf

/-- The second mapping lacks the member under the key, which is null, and is the same otherwise.
    The null hides nothing in any of the given fields. -/
structure Dropped (fields : List (List String)) (key : String) (m m' : Mapping) : Prop where
  null : m.get? key = some .null
  gone : m'.get? key = none
  others : m.EqOff [key] m'
  harmless : ∀ names ∈ fields, ¬ m.Hides names key

namespace Dropped

variable {fields : List (List String)} {key : String} {m m' : Mapping}

theorem get?_eq (h : Dropped fields key m m') {name : String} (hname : name ≠ key) :
    m.get? name = m'.get? name :=
  h.others name (by simpa using hname)

/-- The same is given under all keys. -/
theorem alike (h : Dropped fields key m m') (keys : List String) : m.AlikeOff keys m' := by
  intro name _
  by_cases hname : name = key
  · rw [hname, given?, given?, h.null, h.gone]
    rfl
  · exact given?_congr (h.get?_eq hname)

/-- Under names of which none holds anything, nothing is read. -/
theorem bind_findSome?_of_not_isPresent {α : Type} {f : Value → Option α} (hf : f .null = none)
    {names : List String} (h : ∀ name ∈ names, Field.isPresent m name = false) :
    (names.findSome? m.get?).bind f = none := by
  induction names with
  | nil => rfl
  | cons name names ih =>
    have hfirst := h name List.mem_cons_self
    rw [List.findSome?_cons]
    cases hget : m.get? name with
    | none => exact ih fun other hother => h other (List.mem_cons_of_mem _ hother)
    | some v =>
      rw [Field.isPresent, hget, Option.any_some] at hfirst
      cases v with
      | null => exact hf
      | bool | number | text | list | mapping => cases hfirst

/-- The first of several names that is present leads to the same reading, unless the null was
    hiding another one. -/
theorem bind_findSome? {α : Type} {f : Value → Option α} (hf : f .null = none)
    (h : Dropped fields key m m') {names : List String} (hharmless : ¬ m.Hides names key) :
    (names.findSome? m.get?).bind f = (names.findSome? m'.get?).bind f := by
  induction names with
  | nil => rfl
  | cons name names ih =>
    rw [List.findSome?_cons, List.findSome?_cons]
    by_cases hname : name = key
    · subst hname
      rw [h.null, h.gone]
      -- the null comes first, so the other names hold nothing
      have hfirst : (name :: names).find? m.contains = some name := by
        rw [List.find?_cons, contains, h.null]
        rfl
      refine hf.trans (bind_findSome?_of_not_isPresent hf fun other hother => ?_).symm
      by_cases hsame : other = name
      · rw [hsame, Field.isPresent, h.gone]
        rfl
      · rw [← Field.isPresent_congr (given?_congr (h.get?_eq hsame)), ← Bool.not_eq_true]
        exact fun hpresent =>
          hharmless ⟨hfirst, other, List.mem_cons_of_mem _ hother, hsame, hpresent⟩
    · rw [← h.get?_eq hname]
      cases hget : m.get? name with
      | some v => rfl
      | none =>
        refine ih fun hhides => hharmless ?_
        obtain ⟨hfind, other, hother, hne, hpresent⟩ := hhides
        refine ⟨?_, other, List.mem_cons_of_mem _ hother, hne, hpresent⟩
        rw [List.find?_cons, contains, hget]
        exact hfind

end Dropped

/-- A null member is dropped from its place. -/
theorem dropped {fields : List (List String)} {key : String} (before after : Mapping)
    (hkeys : key ∉ keys before ∧ key ∉ keys after)
    (hharmless : ∀ names ∈ fields, ¬ Hides names key (before ++ (key, .null) :: after)) :
    Dropped fields key (before ++ (key, .null) :: after) (before ++ after) where
  null := by
    rw [get?_append, get?_cons, get?_eq_none hkeys.1, if_pos rfl, Option.none_or]
  gone := by
    rw [get?_append, get?_eq_none hkeys.1, get?_eq_none hkeys.2, Option.none_or]
  others := by
    intro name hname
    have hother : name ≠ key := by simpa using hname
    rw [get?_append, get?_append, get?_cons, if_neg hother]
  harmless := hharmless

end Mapping

/-- A mapping without one of its null members. -/
inductive Value.Dropped (fields : List (List String)) : Value → Value → Prop where
  | intro {key : String} {m m' : Mapping} (h : Mapping.Dropped fields key m m') :
    Dropped fields (.mapping m) (.mapping m')

theorem Value.Dropped.isEntity {fields : List (List String)} {v v' : Value}
    (h : Dropped fields v v') : v.IsEntity ∧ v'.IsEntity := by
  cases h
  exact ⟨trivial, trivial⟩

/-- Null members are dropped from entities, records and ends. Those of records, ports and devices
    hide nothing in the given fields. -/
def Revision.dropping (record port device : List (List String)) : Revision where
  endpoint := Value.Dropped []
  record := Value.Dropped record
  port := Value.Dropped port
  position := Value.Dropped []
  device := Value.Dropped device
  rack := Value.Dropped []
  site := Value.Dropped []
  entry := Value.Dropped []

/-- Any null members are dropped. -/
def Revision.droppingAny : Revision :=
  dropping [] [] []

/-- Null members are dropped unless they hide an end of a record, the peer of a port or the range
    of a device. -/
def Revision.droppingHarmless : Revision :=
  dropping [["from", "source"], ["to", "target"]] [Port.peerKeys]
    [["positionRange", "position_range"]]

-- ════════════════════════════════════════════════════════════════════════
-- What is read without them
-- ════════════════════════════════════════════════════════════════════════

variable {fields : List (List String)} {key : String} {m m' : Mapping}

theorem findSome?_pair (m : Mapping) (key other : String) :
    [key, other].findSome? m.get? = (m.get? key).or (m.get? other) := by
  cases hkey : m.get? key <;> cases hother : m.get? other <;> simp [hkey, hother]

theorem Endpoint.ofValue?_dropped (h : Mapping.Dropped fields key m m') :
    ofValue? (.mapping m) = ofValue? (.mapping m') := by
  have halike := h.alike []
  have htoken : (fun name => (m.get? name).bind token?) = fun name => (m'.get? name).bind token? :=
    funext fun name => by
      rw [← Mapping.bind_given? rfl, ← Mapping.bind_given? rfl, halike name (List.not_mem_nil)]
  unfold ofValue?
  dsimp only
  rw [htoken, halike.firstText ["port", "interface"] (by decide)]

theorem RackUnit.ofPositionValue?_dropped (h : Mapping.Dropped fields key m m') :
    ofPositionValue? (.mapping m) = ofPositionValue? (.mapping m') := by
  change (m.get? "unit").bind ofValue? = (m'.get? "unit").bind ofValue?
  rw [← Mapping.bind_given? rfl, ← Mapping.bind_given? rfl,
    h.alike [] "unit" List.not_mem_nil]

theorem RackUnit.start_dropped (h : Mapping.Dropped fields key m m')
    (hharmless : ¬ m.Hides ["positionRange", "position_range"] key) : start m = start m' := by
  have hrange : ofRange? m = ofRange? m' := by
    unfold ofRange?
    rw [Option.bind_assoc, Option.bind_assoc, ← findSome?_pair, ← findSome?_pair]
    exact h.bind_findSome? rfl hharmless
  have hposition : ofPosition? m = ofPosition? m' := by
    rw [ofPosition?_eq, ofPosition?_eq, ← Mapping.bind_given? rfl, ← Mapping.bind_given? rfl,
      h.alike [] "position" List.not_mem_nil]
  rw [start, start, hrange, hposition]

theorem Connection.ofRecord_dropped (h : Mapping.Dropped fields key m m')
    (hsource : ¬ m.Hides ["from", "source"] key) (htarget : ¬ m.Hides ["to", "target"] key)
    (category : Category) (catalog : CableCatalog) (context : String) :
    ofRecord (.mapping m) category catalog context =
      ofRecord (.mapping m') category catalog context := by
  have hend : ∀ name other,
      ¬ m.Hides [name, other] key → end? m name other = end? m' name other := by
    intro name other hharmless
    rw [end?, end?, ← findSome?_pair, ← findSome?_pair]
    exact h.bind_findSome? rfl hharmless
  exact ofRecord_congr (h.alike _) (hend _ _ hsource) (hend _ _ htarget) _ _ _

theorem Port.ofValue_dropped (h : Mapping.Dropped fields key m m')
    (hharmless : ¬ m.Hides peerKeys key) (index : Nat) (p : Path) :
    ofValue (.mapping m) index p = ofValue (.mapping m') index p := by
  have halike := h.alike []
  unfold ofValue
  dsimp only
  rw [halike.firstText ["name", "id", "port"] (by decide), halike.text "label" (by decide),
    halike.text "speed" (by decide)]
  exact congrArg (fun peer => Except.ok (Port.mk _ _ _ peer)) (h.bind_findSome? rfl hharmless)

theorem Device.ofMapping_dropped (h : Mapping.Dropped fields key m m')
    (hharmless : ¬ m.Hides ["positionRange", "position_range"] key) (parent : String) (index : Nat)
    (p : Path) (defaultType : String) :
    ofMapping m parent index p defaultType = ofMapping m' parent index p defaultType := by
  have hports : Port.listIn m p = Port.listIn m' p := by
    rw [Port.listIn, Port.listIn, (h.alike []).listAlias ["ports", "interfaces"] (by decide)]
  exact (agree_ofMapping_eq parent index defaultType (h.alike _)
    (RackUnit.start_dropped h hharmless) (Tolerance.exact.agree_of_eq hports)).eq

theorem Rack.ofValue_dropped (h : Mapping.Dropped fields key m m') (index : Nat) (p : Path) :
    ofValue (.mapping m) index p = ofValue (.mapping m') index p := by
  have halike := h.alike []
  unfold ofValue
  dsimp only
  rw [halike.firstText ["id", "name"] (by decide), halike.firstText ["label", "name"] (by decide),
    Device.listIn, Device.listIn, halike.listAlias ["devices", "equipment"] (by decide)]

theorem Rack.serverEntry_dropped (h : Mapping.Dropped fields key m m') (p : Path) :
    serverEntry (.mapping m) p = serverEntry (.mapping m') p := by
  have halike := h.alike []
  unfold serverEntry
  dsimp only
  rw [Field.list_congr (halike "servers" List.not_mem_nil),
    halike.firstText ["label", "name"] (by decide)]

theorem Site.ofMapping_dropped (h : Mapping.Dropped fields key m m') (defaultId : String) :
    ofMapping m defaultId = ofMapping m' defaultId := by
  have halike := h.alike []
  unfold ofMapping
  simp only [halike.firstText ["id", "name"] (by decide),
    halike.firstText ["label", "name"] (by decide), halike.text "type" (by decide),
    halike.text "address" (by decide), halike.text "capacity" (by decide)]

/-- Everything is read alike without null members that hide nothing. -/
theorem isRead_droppingHarmless : Revision.droppingHarmless.IsRead .exact where
  endpoint v v' h := by
    obtain ⟨h⟩ := h
    exact Endpoint.ofValue?_dropped h
  record v v' h category catalog context := by
    obtain ⟨h⟩ := h
    exact ofRecord_dropped h (h.harmless _ (by simp)) (h.harmless _ (by simp)) category catalog
      context
  port v v' h index p p' hp := by
    obtain ⟨h⟩ := h
    obtain rfl : p = p' := hp
    exact Tolerance.exact.agree_of_eq (Port.ofValue_dropped h (h.harmless _ (by simp)) index p)
  position v v' h := by
    obtain ⟨h⟩ := h
    exact RackUnit.ofPositionValue?_dropped h
  device v v' h := by
    refine ⟨h.isEntity, fun parent index p p' defaultType _ hp => ?_⟩
    obtain ⟨h⟩ := h
    obtain rfl : p = p' := hp
    exact Tolerance.exact.agree_of_eq (Device.ofMapping_dropped h (h.harmless _ (by simp)) ..)
  rack v v' h := by
    refine ⟨h.isEntity, fun index p p' hp => ?_⟩
    obtain ⟨h⟩ := h
    obtain rfl : p = p' := hp
    exact Tolerance.exact.agree_of_eq (Rack.ofValue_dropped h index p)
  site v v' h := by
    refine ⟨h.isEntity, fun defaultId p p' _ => ?_⟩
    obtain ⟨h⟩ := h
    exact Tolerance.exact.agree_of_eq (congrArg Except.ok (Site.ofMapping_dropped h defaultId))
  entry v v' h p p' hp := by
    obtain ⟨h⟩ := h
    obtain rfl : p = p' := hp
    exact Tolerance.exact.agree_of_eq (Rack.serverEntry_dropped h p)

/-- **Null says nothing** where it hides nothing: a document without its null members is drawn in
    the same way, or refused with the same error. -/
theorem generate_eq_of_dropped
    (h : m.Memberwise ((classifyMapping m).Revises .droppingHarmless) m')
    (options : Dot.RenderOptions) :
    generate (.mapping m) options = generate (.mapping m') options :=
  (isRead_droppingHarmless.agree_generate h options).eq

/-- A device that gives its ports under one of two names, and a record that gives its source under
    one of two names. -/
def portDocument (device record : Mapping) : Mapping :=
  [("device", .mapping (("id", .text "d") :: device ++ [("interfaces", .list [.text "e0"])])),
    ("connections", .list [.mapping (("from", .text "d") :: record ++
      [("to", .mapping [("device", .text "d"), ("port", .text "e0")])])])]

theorem generate_eq_portDocument : ∃ g,
    generate (.mapping (portDocument [("ports", .null)] [("source", .null)])) .standard = .ok g ∧
    generate (.mapping (portDocument [] [])) .standard = .ok g ∧
    g.diagram.graph.edges.map (fun e => (e.source, e.target)) = [("d", "\"d:e0\"")] := by
  have hedges : ((generate (.mapping (portDocument [] [])) .standard).toOption.map fun g =>
      g.diagram.graph.edges.map fun e => (e.source, e.target)) = some [("d", "\"d:e0\"")] := by
    decide +kernel
  obtain ⟨g, hg, hgedges⟩ := exists_of_toOption_map hedges
  have hkind : classifyMapping (portDocument [("ports", .null)] [("source", .null)]) = .device :=
    rfl
  refine ⟨g, ?_, hg, hgedges⟩
  rw [generate_eq_of_dropped ?_ .standard, hg]
  rw [hkind]
  refine .cons ⟨rfl, ?_⟩ (.cons ⟨rfl, ?_⟩ .nil)
  · change Kind.device.Revises _ "device" _ _
    rw [Kind.Revises, ByField, if_pos (by decide)]
    refine .whole ⟨Mapping.dropped [("id", .text "d")] _ (by decide) ?_⟩
    decide
  · change Kind.device.Revises _ "connections" _ _
    rw [Kind.Revises, ByField, if_neg (by decide), ByField, if_pos (by decide)]
    refine .lists (.cons (.whole ⟨Mapping.dropped [("from", .text "d")] _ (by decide) ?_⟩) .nil)
    decide

/-- A record whose null hides its source is malformed, whatever the source is. -/
theorem Connection.ofRecord_of_hidden (h : m.Hides ["from", "source"] key)
    (hnull : m.get? key = some .null) (category : Category) (catalog : CableCatalog)
    (context : String) : ofRecord (.mapping m) category catalog context =
      .error (.malformedConnection context "missing source endpoint `from`") := by
  have hend : end? m "from" "source" = none := by
    rw [end?, ← findSome?_pair]
    exact h.bind_findSome? rfl hnull
  dsimp only [ofRecord]
  rw [hend]

/-- A record that names its source `a` in one of two fields, after other members. -/
def sourceDocument (others : Mapping) : Mapping :=
  [("topology", .mapping [("devices", .list [.text "a", .text "b"]),
    ("connections", .list [.mapping (others ++ [("source", .text "a"), ("to", .text "b")])])])]

/-- A null in front of the source hides it, and the connection is not drawn. -/
theorem not_generate_eq_hiddenSource :
    (sourceDocument [("from", .null)]).Memberwise
      ((classifyMapping (sourceDocument [("from", .null)])).Revises .droppingAny)
      (sourceDocument []) ∧
    generate (.mapping (sourceDocument [("from", .null)])) .standard ≠
      generate (.mapping (sourceDocument [])) .standard := by
  have hkind : classifyMapping (sourceDocument [("from", .null)]) = .topology := rfl
  constructor
  · rw [hkind]
    refine .cons ⟨rfl, ?_⟩ .nil
    change Kind.topology.Revises _ "topology" _ _
    rw [Kind.Revises, ByField, if_pos (by decide)]
    refine .mappings (.cons ?_ (.cons ?_ .nil))
    · rw [ByField, if_pos (by decide)]
      exact .refl _
    · rw [ByField, if_neg (by decide), ByField, if_pos (by decide)]
      refine .lists (.cons (.whole ⟨Mapping.dropped [] _ (by decide) ?_⟩) .nil)
      decide
  · intro heq
    have hedges := congrArg (fun r => r.toOption.map fun g : Generated =>
      g.diagram.graph.edges.length) heq
    revert hedges
    decide +kernel

end InfraDiagram
