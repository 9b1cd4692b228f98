import InfraDiagram.Document.Decode
import InfraDiagram.Document.Json.Printer
import InfraDiagram.Proofs.Agreement
import InfraDiagram.Proofs.DecodedData
import InfraDiagram.Proofs.Numerals
import Mathlib

/-!
# Entries of YAML mappings

The keys of a YAML mapping may be any scalars; those of a document value are texts. Keys that
become the same text share one member, so an entry is lost. For scalars this happens to keys that
differ in their tags only, and to a text that is spelled like a key that is no text.

## Main definitions

- `Yaml.Data.LooksLike` — keys that cannot be told apart once they are texts
- `Yaml.Data.Keeps` — a value with a member for each entry, at every mapping

## Main statements

- `Yaml.Data.keyText_eq_iff` — when two scalars become the same text
- `Yaml.Data.keeps_toValue_iff` — when no entry is lost, for keys of any type
- `Yaml.Data.exists_toValue_mapping` — what is left when entries are lost
- `keepsEntries_iff_of_scalarKeys` — when no entry is lost, by what the keys look like
- `not_keeps_spelledAlike` — a number and a text that is spelled like it
-/

namespace InfraDiagram

namespace Yaml

namespace Data

-- ════════════════════════════════════════════════════════════════════════
-- Keys
-- ════════════════════════════════════════════════════════════════════════

/-- Data without the tags around it. -/
def untagged : Data → Data
  | .tagged _ value => value.untagged
  | other => other

/-- A scalar, under whatever tags. -/
def isScalar : Data → Bool
  | .sequence _ | .mapping _ => false
  | .tagged _ value => value.isScalar
  | _ => true

theorem exists_untagged_eq : ∀ d : Data, d.isScalar = true → ∃ s, d.untagged = ofScalar s
  | .tagged _ value, h => exists_untagged_eq value h
  | .null, _ => ⟨.null, rfl⟩
  | .bool b, _ => ⟨.bool b, rfl⟩
  | .number n, _ => ⟨.number n, rfl⟩
  | .text s, _ => ⟨.text s, rfl⟩

/-- Keys that cannot be told apart once they are texts: they differ in their tags at most, or one
    is a text that is spelled like the other. -/
def LooksLike (k l : Data) : Prop :=
  k.untagged = l.untagged ∨ k.untagged = .text l.keyText ∨ l.untagged = .text k.keyText

theorem keyText_untagged : ∀ k : Data, k.untagged.keyText = k.keyText
  | .tagged _ value => keyText_untagged value
  | .null | .bool _ | .number _ | .text _ | .sequence _ | .mapping _ => rfl

theorem text_ne_null (m : Number) : m.text ≠ "null" :=
  m.text_ne_word (by decide) (by decide)

theorem text_ne_bool (m : Number) (b : Bool) : m.text ≠ if b then "true" else "false" := by
  cases b
  · exact m.text_ne_word (by decide) (by decide)
  · exact m.text_ne_word (by decide) (by decide)

/-- Scalars that are no texts are told apart by their texts. -/
theorem eq_of_keyText_ofScalar {s t : Scalar} (hs : ∀ u, s ≠ .text u) (ht : ∀ u, t ≠ .text u)
    (h : (ofScalar s).keyText = (ofScalar t).keyText) : s = t := by
  have hnull : ∀ b : Bool, (if b then "true" else "false") ≠ "null" := by decide
  have hbool : ∀ a b : Bool, (if a then "true" else "false") = (if b then "true" else "false") →
      a = b := by decide
  match s, t with
  | .text u, _ => exact absurd rfl (hs u)
  | _, .text u => exact absurd rfl (ht u)
  | .null, .null => rfl
  | .null, .bool b => exact absurd h.symm (hnull b)
  | .null, .number n => exact absurd h.symm (text_ne_null n)
  | .bool a, .null => exact absurd h (hnull a)
  | .bool a, .bool b => exact congrArg Scalar.bool (hbool a b h)
  | .bool a, .number n => exact absurd h.symm (text_ne_bool n a)
  | .number m, .null => exact absurd h (text_ne_null m)
  | .number m, .bool b => exact absurd h (text_ne_bool m b)
  | .number m, .number n => exact congrArg Scalar.number (Number.text_injective h)

/-- **Texts of keys.** Two scalars become the same text exactly if they look alike. -/
theorem keyText_eq_iff {k l : Data} (hk : k.isScalar = true) (hl : l.isScalar = true) :
    k.keyText = l.keyText ↔ k.LooksLike l := by
  constructor
  · intro h
    obtain ⟨s, hs⟩ := exists_untagged_eq k hk
    obtain ⟨t, ht⟩ := exists_untagged_eq l hl
    have hks : k.keyText = (ofScalar s).keyText := by rw [← hs, keyText_untagged]
    have hlt : l.keyText = (ofScalar t).keyText := by rw [← ht, keyText_untagged]
    by_cases hstext : ∃ u, s = .text u
    · obtain ⟨u, rfl⟩ := hstext
      exact .inr (.inl (hs.trans (congrArg Data.text (hks.symm.trans h))))
    by_cases httext : ∃ u, t = .text u
    · obtain ⟨u, rfl⟩ := httext
      exact .inr (.inr (ht.trans (congrArg Data.text (hlt.symm.trans h.symm))))
    have hst : s = t := eq_of_keyText_ofScalar (fun u hu => hstext ⟨u, hu⟩)
      (fun u hu => httext ⟨u, hu⟩) (hks.symm.trans (h.trans hlt))
    exact .inl (by rw [hs, ht, hst])
  · rintro (h | h | h)
    · rw [← keyText_untagged k, h, keyText_untagged]
    · rw [← keyText_untagged k, h]
      rfl
    · rw [← keyText_untagged l, h]
      rfl

-- ════════════════════════════════════════════════════════════════════════
-- Entries
-- ════════════════════════════════════════════════════════════════════════

mutual

/-- A value that keeps everything in data: at every mapping it has one member for each entry, in the
    same order, and no key twice. -/
inductive Keeps : Data → Value → Prop where
  | null : Keeps .null .null
  | bool (b : Bool) : Keeps (.bool b) (.bool b)
  | number (n : Number) : Keeps (.number n) n.toValue
  | text (s : String) : Keeps (.text s) (.text s)
  | sequence {items : List Data} {values : List Value} :
      KeepsItems items values → Keeps (.sequence items) (.list values)
  | mapping {pairs : List (Data × Data)} {members : Mapping} :
      KeepsPairs pairs members → members.DistinctKeys → Keeps (.mapping pairs) (.mapping members)
  | tagged {tag : String} {x : Data} {v : Value} : Keeps x v → Keeps (.tagged tag x) v

inductive KeepsItems : List Data → List Value → Prop where
  | nil : KeepsItems [] []
  | cons {x : Data} {v : Value} {items : List Data} {values : List Value} :
      Keeps x v → KeepsItems items values → KeepsItems (x :: items) (v :: values)

inductive KeepsPairs : List (Data × Data) → Mapping → Prop where
  | nil : KeepsPairs [] []
  | cons {k x : Data} {v : Value} {pairs : List (Data × Data)} {members : Mapping} :
      Keeps x v → KeepsPairs pairs members →
        KeepsPairs ((k, x) :: pairs) ((k.keyText, v) :: members)

end

/-- The entries of a mapping, one after the other. -/
def entries (pairs : List (Data × Data)) : Mapping :=
  pairs.map fun (k, x) => (k.keyText, x.toValue)

/-- No two keys become the same text. -/
def KeysApart (pairs : List (Data × Data)) : Prop :=
  (entries pairs).DistinctKeys

instance (pairs : List (Data × Data)) : Decidable (KeysApart pairs) :=
  inferInstanceAs (Decidable (entries pairs).keys.Nodup)

/-- A mapping is built by writing its entries one after the other. -/
theorem toMembers_eq_putAll (pairs : List (Data × Data)) (members : Mapping) :
    toMembers members pairs = Entries.putAll members (entries pairs) := by
  induction pairs generalizing members with
  | nil => rfl
  | cons pair rest ih =>
    obtain ⟨k, x⟩ := pair
    rw [toMembers, ih, Mapping.insert_eq_put]
    rfl

theorem KeysApart.toMembers_eq {pairs : List (Data × Data)} (h : KeysApart pairs) :
    toMembers [] pairs = entries pairs :=
  (toMembers_eq_putAll pairs []).trans (Entries.putAll_nil h)

theorem KeepsPairs.keys_eq {pairs : List (Data × Data)} {members : Mapping}
    (h : KeepsPairs pairs members) : members.keys = (entries pairs).keys := by
  induction pairs generalizing members with
  | nil =>
    cases h
    rfl
  | cons pair rest ih =>
    cases h with
    | cons hx hrest => exact congrArg (_ :: ·) (ih hrest)

mutual

/-- **When nothing is lost.** The value of data keeps everything exactly if no mapping has two keys
    that become the same text. -/
theorem keeps_toValue_iff :
    ∀ d : Data, d.Keeps d.toValue ↔ ∀ pairs ∈ d.mappings, KeysApart pairs
  | .null => iff_of_true .null fun _ h => nomatch h
  | .bool b => iff_of_true (.bool b) fun _ h => nomatch h
  | .number n => iff_of_true (.number n) fun _ h => nomatch h
  | .text s => iff_of_true (.text s) fun _ h => nomatch h
  | .sequence items => by
    rw [mappings, ← keepsItems_toValues_iff items]
    exact ⟨fun h => by cases h; assumption, .sequence⟩
  | .mapping pairs => by
    rw [mappings, List.forall_mem_cons, ← keepsPairs_entries_iff pairs]
    constructor
    · intro h
      rw [toValue] at h
      cases h with
      | mapping hpairs hdistinct =>
        have hapart : KeysApart pairs := by
          rwa [KeysApart, Mapping.DistinctKeys, ← hpairs.keys_eq]
        rw [hapart.toMembers_eq] at hpairs
        exact ⟨hapart, hpairs⟩
    · rintro ⟨hapart, hpairs⟩
      rw [toValue, hapart.toMembers_eq]
      exact .mapping hpairs hapart
  | .tagged _ value => by
    rw [mappings, ← keeps_toValue_iff value]
    exact ⟨fun h => by cases h; assumption, .tagged⟩

theorem keepsItems_toValues_iff : ∀ items : List Data,
    KeepsItems items (toValues items) ↔ ∀ pairs ∈ mappingsOfItems items, KeysApart pairs
  | [] => iff_of_true .nil fun _ h => nomatch h
  | x :: rest => by
    rw [mappingsOfItems, List.forall_mem_append, ← keeps_toValue_iff x,
      ← keepsItems_toValues_iff rest]
    constructor
    · intro h
      cases h with
      | cons hx hrest => exact ⟨hx, hrest⟩
    · rintro ⟨hx, hrest⟩
      exact .cons hx hrest

theorem keepsPairs_entries_iff : ∀ pairs : List (Data × Data),
    KeepsPairs pairs (entries pairs) ↔ ∀ inner ∈ mappingsOfPairs pairs, KeysApart inner
  | [] => iff_of_true .nil fun _ h => nomatch h
  | (k, x) :: rest => by
    rw [mappingsOfPairs, List.forall_mem_append, ← keeps_toValue_iff x,
      ← keepsPairs_entries_iff rest]
    constructor
    · intro h
      cases h with
      | cons hx hrest => exact ⟨hx, hrest⟩
    · rintro ⟨hx, hrest⟩
      exact .cons hx hrest

end

instance (d : Data) : Decidable (d.Keeps d.toValue) :=
  decidable_of_iff (∀ pairs ∈ d.mappings, KeysApart pairs) (keeps_toValue_iff d).symm

/-- **What is left.** The value of a mapping has one member for each text that its keys become, in
    the order of their first entries, and each with the value of the last entry. -/
theorem exists_toValue_mapping (pairs : List (Data × Data)) :
    ∃ members : Mapping, (Data.mapping pairs).toValue = .mapping members ∧
      members.keys = (entries pairs).keys.eraseDups ∧
      ∀ key, members.get? key = Mapping.get? (entries pairs).reverse key := by
  refine ⟨toMembers [] pairs, rfl, ?_, fun key => ?_⟩
  · rw [toMembers_eq_putAll]
    exact Entries.keys_putAll_nil _
  · rw [toMembers_eq_putAll]
    exact Entries.lookup_putAll_nil _ key

/-- Data whose mappings have scalars for keys. -/
def HasScalarKeys (d : Data) : Prop :=
  ∀ pairs ∈ d.mappings, ∀ pair ∈ pairs, pair.1.isScalar = true

instance (d : Data) : Decidable d.HasScalarKeys :=
  inferInstanceAs (Decidable (∀ pairs ∈ d.mappings, ∀ pair ∈ pairs, _))

/-- Data without a mapping in which two keys look alike. -/
def HasNoLookalikes (d : Data) : Prop :=
  ∀ pairs ∈ d.mappings, pairs.Pairwise fun p q => ¬ p.1.LooksLike q.1

theorem keysApart_iff {pairs : List (Data × Data)} (h : ∀ pair ∈ pairs, pair.1.isScalar = true) :
    KeysApart pairs ↔ pairs.Pairwise fun p q => ¬ p.1.LooksLike q.1 := by
  have hkeys : (entries pairs).keys = pairs.map fun pair => pair.1.keyText := by
    simp [entries, Mapping.keys]
  rw [KeysApart, Mapping.DistinctKeys, hkeys, List.Nodup, List.pairwise_map]
  refine List.Pairwise.iff_of_mem fun {p q} hp hq => ?_
  rw [Ne, keyText_eq_iff (h p hp) (h q hq)]

end Data

end Yaml

open Yaml Yaml.Data

/-- **Entries that are kept.** Let all keys in some data be scalars. Its value has a member for each
    entry of each mapping exactly if nowhere two keys of one mapping look alike, because keys that
    look alike are the ones that become the same text. Data that was read from a text has no key
    twice, and its value is what the text is decoded to. -/
theorem keepsEntries_iff_of_scalarKeys {d : Data} (h : d.HasScalarKeys) :
    (d.Keeps d.toValue ↔ d.HasNoLookalikes) ∧
      (∀ pairs ∈ d.mappings, ∀ p ∈ pairs, ∀ q ∈ pairs,
        p.1.keyText = q.1.keyText ↔ p.1.LooksLike q.1) ∧
      ∀ text, Yaml.data text = .ok d → d.HasDistinctKeys ∧ decodeYaml text = .ok d.toValue := by
  refine ⟨?_, fun pairs hpairs p hp q hq => ?_, fun text htext => ⟨?_, ?_⟩⟩
  · rw [keeps_toValue_iff, HasNoLookalikes]
    exact forall₂_congr fun pairs hpairs => keysApart_iff (h pairs hpairs)
  · exact keyText_eq_iff (h pairs hpairs p hp) (h pairs hpairs q hq)
  · exact hasDistinctKeys_of_data htext
  · rw [decodeYaml, htext]
    rfl

/-- Racks by number, and a truth value for a rack. -/
def numberedRacks : Data :=
  .mapping [(.text "rack_servers", .mapping [(.number (.int 1), .sequence [.text "s1"]),
    (.tagged "half" (.bool true), .sequence [])])]

theorem keepsEntries_numberedRacks : numberedRacks.HasScalarKeys ∧ numberedRacks.HasNoLookalikes ∧
    numberedRacks.Keeps numberedRacks.toValue := by
  have hscalar : numberedRacks.HasScalarKeys := by decide +kernel
  have hapart : numberedRacks.HasNoLookalikes := by
    simp [HasNoLookalikes, numberedRacks, mappings, mappingsOfPairs, mappingsOfItems, LooksLike,
      untagged]
  exact ⟨hscalar, hapart, (keepsEntries_iff_of_scalarKeys hscalar).1.2 hapart⟩

/-- A number, and a text that is spelled like it. -/
def spelledAlike : Data :=
  .mapping [(.number (.int 1), .text "a"), (.text "1", .text "b")]

/-- The two keys differ, and the entry of the number is lost. -/
theorem not_keeps_spelledAlike : Yaml.data "1: a\n\"1\": b\n" = .ok spelledAlike ∧
    spelledAlike.HasScalarKeys ∧ spelledAlike.HasDistinctKeys ∧
    ¬ spelledAlike.Keeps spelledAlike.toValue ∧
    Json.compact spelledAlike.toValue = "\x7b\"1\":\"b\"\x7d" := by
  have hdata : Yaml.data "1: a\n\"1\": b\n" = .ok spelledAlike := by cbv
  exact ⟨hdata, by decide +kernel, hasDistinctKeys_of_data hdata, by decide +kernel,
    by decide +kernel⟩

end InfraDiagram
