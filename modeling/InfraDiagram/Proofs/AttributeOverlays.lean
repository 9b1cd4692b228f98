import InfraDiagram.Proofs.Attributes

/-!
# Attribute lists as overlays

Attribute lists are made by setting attributes and by laying lists over each other, to any depth.
However one is made, it has no name twice, its names stand in the order in which they were first
set, and each has the value that was set last. So laying lists over each other is associative, and
a list that is laid over itself stays as it is.

## Main definitions

- `Attrs.Edit` — a step in the making of a list, which may lay another list over it
- `Attrs.built` — the list that edits make from nothing
- `Attrs.Edit.writes` — the pairs that an edit sets
- `Attrs.Edit.deepWrites` — the pairs that are set at all depths, replaced ones included
- `Attrs.IsLeftBy` — a list as what is left of writes

## Main statements

- `Attrs.entries_built` — a list is made by its writes alone
- `Attrs.entries_built_deep` — how the writes are grouped in lists does not matter
- `overlays_of_edits` — look-up, order and the laws of laying lists over each other
-/

namespace InfraDiagram

namespace Dot.Attrs

def keys (attrs : Attrs) : List String :=
  Entries.keys attrs.entries

theorem ext_entries {attrs others : Attrs} (h : attrs.entries = others.entries) :
    attrs = others := by
  cases attrs
  cases others
  exact congrArg Attrs.mk h

-- ════════════════════════════════════════════════════════════════════════
-- Edits
-- ════════════════════════════════════════════════════════════════════════

/-- A step in the making of an attribute list. The list that is laid over it is made in the same
    way. -/
inductive Edit where
  | raw (key value : String)
  | text (key value : String)
  | lines (key : String) (values : List String)
  | merge (edits : List Edit)

mutual

/-- What an edit makes of a list. -/
def edit (attrs : Attrs) : Edit → Attrs
  | .raw key value => attrs.raw key value
  | .text key value => attrs.text key value
  | .lines key values => attrs.lines key values
  | .merge edits => attrs.merge (editAll empty edits)

def editAll (attrs : Attrs) : List Edit → Attrs
  | [] => attrs
  | e :: rest => editAll (edit attrs e) rest

end

/-- The list that edits make from nothing. -/
def built (edits : List Edit) : Attrs :=
  editAll empty edits

/-- The pairs that an edit sets: its own, or those of the list that it lays over. -/
def Edit.writes : Edit → Entries String
  | .raw key value => [(key, value)]
  | .text key value => [(key, "\"" ++ Text.escapeLabel value ++ "\"")]
  | .lines key values => [(key, "\"" ++ Text.escapeLines values ++ "\"")]
  | .merge edits => (built edits).entries

mutual

/-- The pairs that are set at all depths, one after the other. -/
def Edit.deepWrites : Edit → Entries String
  | .raw key value => [(key, value)]
  | .text key value => [(key, "\"" ++ Text.escapeLabel value ++ "\"")]
  | .lines key values => [(key, "\"" ++ Text.escapeLines values ++ "\"")]
  | .merge edits => Edit.deepWritesAll edits

def Edit.deepWritesAll : List Edit → Entries String
  | [] => []
  | e :: rest => e.deepWrites ++ Edit.deepWritesAll rest

end

/-- One edit sets the pairs that it writes. -/
theorem entries_edit (attrs : Attrs) (e : Edit) :
    (edit attrs e).entries = Entries.putAll attrs.entries e.writes := by
  cases e with
  | raw key value => exact entries_set attrs key _
  | text key value => exact entries_set attrs key _
  | lines key values => exact entries_set attrs key _
  | merge edits => exact entries_merge attrs (built edits)

theorem entries_editAll (attrs : Attrs) (edits : List Edit) :
    (editAll attrs edits).entries = Entries.putAll attrs.entries (edits.flatMap Edit.writes) := by
  induction edits generalizing attrs with
  | nil => rfl
  | cons e rest ih =>
    rw [editAll, ih, entries_edit, List.flatMap_cons, Entries.putAll_append]

/-- A list is made by its writes alone. -/
theorem entries_built (edits : List Edit) :
    (built edits).entries = Entries.putAll [] (edits.flatMap Edit.writes) :=
  entries_editAll empty edits

theorem nodup_keys_built (edits : List Edit) : (built edits).keys.Nodup := by
  rw [keys, entries_built]
  exact Entries.nodup_keys_putAll Entries.nodup_keys_nil _

/-- What was written into a list that is laid over another could as well have been written into
    that one. -/
theorem putAll_entries_built {entries : Entries String} (h : (Entries.keys entries).Nodup)
    (edits : List Edit) :
    Entries.putAll entries (built edits).entries =
      Entries.putAll entries (edits.flatMap Edit.writes) := by
  rw [entries_built, Entries.putAll_putAll h Entries.nodup_keys_nil]
  rfl

mutual

theorem putAll_deepWrites {entries : Entries String} (h : (Entries.keys entries).Nodup) :
    ∀ e : Edit, Entries.putAll entries e.deepWrites = Entries.putAll entries e.writes
  | .raw _ _ | .text _ _ | .lines _ _ => by
    rw [Edit.deepWrites, Edit.writes]
  | .merge edits => by
    rw [Edit.deepWrites, Edit.writes, putAll_entries_built h, putAll_deepWritesAll h edits]

theorem putAll_deepWritesAll {entries : Entries String} (h : (Entries.keys entries).Nodup) :
    ∀ edits : List Edit, Entries.putAll entries (Edit.deepWritesAll edits) =
      Entries.putAll entries (edits.flatMap Edit.writes)
  | [] => rfl
  | e :: rest => by
    rw [Edit.deepWritesAll, List.flatMap_cons, Entries.putAll_append, Entries.putAll_append,
      putAll_deepWrites h e, putAll_deepWritesAll (Entries.nodup_keys_putAll h _) rest]

end

/-- How the writes are grouped in lists does not matter. -/
theorem entries_built_deep (edits : List Edit) :
    (built edits).entries = Entries.putAll [] (Edit.deepWritesAll edits) := by
  rw [entries_built, putAll_deepWritesAll Entries.nodup_keys_nil]

/-- What writes leave: each name has the value that was written last, and the names stand in the
    order of their first writes. -/
structure IsLeftBy (attrs : Attrs) (writes : Entries String) : Prop where
  last : ∀ key, attrs.get? key = writes.reverse.lookup key
  order : attrs.keys = (Entries.keys writes).eraseDups

theorem isLeftBy_of_entries {attrs : Attrs} {writes : Entries String}
    (h : attrs.entries = Entries.putAll [] writes) : attrs.IsLeftBy writes where
  last key := by rw [get?, h, Entries.lookup_putAll_nil]
  order := by rw [keys, h, Entries.keys_putAll_nil]

-- ════════════════════════════════════════════════════════════════════════
-- Laying lists over each other
-- ════════════════════════════════════════════════════════════════════════

section

variable {attrs later : Attrs}

theorem merge_assoc (h : attrs.keys.Nodup) (hlater : later.keys.Nodup) (latest : Attrs) :
    (attrs.merge later).merge latest = attrs.merge (later.merge latest) := by
  apply ext_entries
  simp only [entries_merge]
  exact (Entries.putAll_putAll h hlater latest.entries).symm

theorem merge_empty (attrs : Attrs) : attrs.merge empty = attrs :=
  rfl

theorem empty_merge (h : attrs.keys.Nodup) : empty.merge attrs = attrs :=
  ext_entries ((entries_merge empty attrs).trans (Entries.putAll_nil h))

theorem merge_self (h : attrs.keys.Nodup) : attrs.merge attrs = attrs :=
  ext_entries ((entries_merge attrs attrs).trans (Entries.putAll_self h))

theorem get?_merge (attrs : Attrs) (hlater : later.keys.Nodup) (key : String) :
    (attrs.merge later).get? key = (later.get? key).or (attrs.get? key) := by
  rw [get?, entries_merge, Entries.lookup_putAll, Entries.lookup_reverse hlater]
  rfl

end

end Dot.Attrs

open Dot Dot.Attrs

/-- **Attribute lists are overlays.** A list that edits make from nothing has no name twice. It is
    left by the pairs that they write, and it does not matter whether a list that is laid over
    another counts for its pairs or for all that was ever written into it. Laying such lists over
    each other is associative, the empty list changes nothing on either side, a list laid over
    itself changes nothing, and a name has its value from the upper list if it has one there. -/
theorem overlays_of_edits :
    (∀ edits, (built edits).keys.Nodup ∧ (built edits).IsLeftBy (edits.flatMap Edit.writes) ∧
      (built edits).IsLeftBy (Edit.deepWritesAll edits)) ∧
    (∀ a b c, ((built a).merge (built b)).merge (built c) =
      (built a).merge ((built b).merge (built c))) ∧
    (∀ a, (built a).merge empty = built a ∧ empty.merge (built a) = built a ∧
      (built a).merge (built a) = built a) ∧
    ∀ a b key, ((built a).merge (built b)).get? key =
      ((built b).get? key).or ((built a).get? key) := by
  refine ⟨fun edits => ⟨nodup_keys_built edits, isLeftBy_of_entries (entries_built edits),
      isLeftBy_of_entries (entries_built_deep edits)⟩,
    fun a b c => merge_assoc (nodup_keys_built a) (nodup_keys_built b) _,
    fun a => ⟨merge_empty _, empty_merge (nodup_keys_built a), merge_self (nodup_keys_built a)⟩,
    fun a b key => get?_merge _ (nodup_keys_built b) key⟩

end InfraDiagram
