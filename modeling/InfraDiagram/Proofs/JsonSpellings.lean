import InfraDiagram.Proofs.ParsedValues
import InfraDiagram.Proofs.YamlEntries

/-!
# JSON data in YAML

A JSON value can be written in YAML with the same structure, and with tags around any of its values
and keys. Its data then has that value again, with the members of each mapping in the same order.
Besides null itself, infinities and not-a-number are the only data that become null.

## Main definitions

- `Yaml.Data.Spells` — data with the structure of a value, whatever its tags
- `Yaml.Data.ofValue` — the data of that structure without tags
- `Yaml.Data.IsJson` — data that has a JSON value member by member

## Main statements

- `Yaml.Data.spells_iff` — data spells a JSON value exactly if that is its value
- `Yaml.Data.toValue_eq_null_iff` — what becomes null
- `agrees_of_spells` — the two readers
-/

namespace InfraDiagram

namespace Yaml

-- ════════════════════════════════════════════════════════════════════════
-- Numbers
-- ════════════════════════════════════════════════════════════════════════

namespace Number

def IsFinite : Number → Prop
  | .int _ | .float _ => True
  | .infinity _ | .notANumber => False

/-- An integer that fits 64 bits keeps its value, whether it is taken for an unsigned word or for a
    signed one. -/
theorem toValue_int {i : Int} (h : (Number.int i).Fits) :
    (Number.int i).toValue = .number (.int i) := by
  obtain ⟨hlower, hupper⟩ : -2 ^ 63 ≤ i ∧ i < 2 ^ 64 := h
  by_cases hsign : 0 ≤ i
  · have hunsigned : (Number.int i).unsigned? = some i.toNat :=
      if_pos ⟨hsign, by exact_mod_cast hupper⟩
    simp only [toValue, hunsigned, Int.toNat_of_nonneg hsign]
  · have hunsigned : (Number.int i).unsigned? = none := if_neg fun h => hsign h.1
    have hsigned : (Number.int i).signed? = some i :=
      if_pos ⟨by exact_mod_cast hlower, lt_trans (not_le.1 hsign) (by decide)⟩
    simp only [toValue, hunsigned, hsigned]

theorem toValue_eq_null_iff {n : Number} (h : n.Fits) : n.toValue = .null ↔ ¬ n.IsFinite := by
  cases n with
  | int i =>
    rw [toValue_int h]
    exact iff_of_false (fun hnull => nomatch hnull) (not_not_intro trivial)
  | float x => exact iff_of_false (fun hnull => nomatch hnull) (not_not_intro trivial)
  | infinity negative => exact iff_of_true rfl id
  | notANumber => exact iff_of_true rfl id

end Number

namespace Data

-- ════════════════════════════════════════════════════════════════════════
-- Spellings
-- ════════════════════════════════════════════════════════════════════════

mutual

/-- Data with the structure of a value: every part has the same meaning, the keys are the same texts
    in the same order, and infinities and not-a-number stand where the value has null. Tags may be
    around any part and any key. -/
inductive Spells : Data → Value → Prop where
  | null : Spells .null .null
  | bool (b : Bool) : Spells (.bool b) (.bool b)
  | int (i : Int) : Spells (.number (.int i)) (.number (.int i))
  | float (x : Binary64) : Spells (.number (.float x)) (.number (.float x))
  | infinity (negative : Bool) : Spells (.number (.infinity negative)) .null
  | notANumber : Spells (.number .notANumber) .null
  | text (s : String) : Spells (.text s) (.text s)
  | sequence {items : List Data} {values : List Value} :
      SpellsItems items values → Spells (.sequence items) (.list values)
  | mapping {pairs : List (Data × Data)} {members : Mapping} :
      SpellsPairs pairs members → Spells (.mapping pairs) (.mapping members)
  | tagged {tag : String} {x : Data} {v : Value} : Spells x v → Spells (.tagged tag x) v

inductive SpellsItems : List Data → List Value → Prop where
  | nil : SpellsItems [] []
  | cons {x : Data} {v : Value} {items : List Data} {values : List Value} :
      Spells x v → SpellsItems items values → SpellsItems (x :: items) (v :: values)

inductive SpellsPairs : List (Data × Data) → Mapping → Prop where
  | nil : SpellsPairs [] []
  | cons {k x : Data} {key : String} {v : Value} {pairs : List (Data × Data)}
      {members : Mapping} :
      k.untagged = .text key → Spells x v → SpellsPairs pairs members →
        SpellsPairs ((k, x) :: pairs) ((key, v) :: members)

end

mutual

/-- The data with the structure of a value, without tags. -/
def ofValue : Value → Data
  | .null => .null
  | .bool b => .bool b
  | .number (.int i) => .number (.int i)
  | .number (.float x) => .number (.float x)
  | .text s => .text s
  | .list items => .sequence (ofValues items)
  | .mapping members => .mapping (ofMembers members)

def ofValues : List Value → List Data
  | [] => []
  | v :: rest => ofValue v :: ofValues rest

def ofMembers : List (String × Value) → List (Data × Data)
  | [] => []
  | (key, v) :: rest => (.text key, ofValue v) :: ofMembers rest

end

mutual

theorem spells_ofValue : ∀ v : Value, (ofValue v).Spells v
  | .null => .null
  | .bool b => .bool b
  | .number (.int i) => .int i
  | .number (.float x) => .float x
  | .text s => .text s
  | .list items => .sequence (spellsItems_ofValues items)
  | .mapping members => .mapping (spellsPairs_ofMembers members)

theorem spellsItems_ofValues : ∀ items : List Value, SpellsItems (ofValues items) items
  | [] => .nil
  | v :: rest => .cons (spells_ofValue v) (spellsItems_ofValues rest)

theorem spellsPairs_ofMembers : ∀ members : List (String × Value),
    SpellsPairs (ofMembers members) members
  | [] => .nil
  | (_, v) :: rest => .cons rfl (spells_ofValue v) (spellsPairs_ofMembers rest)

end

-- ════════════════════════════════════════════════════════════════════════
-- Values of spellings
-- ════════════════════════════════════════════════════════════════════════

mutual

/-- Integers fit 64 bits, and the keys of each mapping are pairwise different texts, whatever their
    tags. -/
def IsJson : Data → Prop
  | .null | .bool _ | .text _ => True
  | .number n => n.Fits
  | .sequence items => AreJson items
  | .mapping pairs => KeysApart pairs ∧ PairsAreJson pairs
  | .tagged _ value => value.IsJson

def AreJson : List Data → Prop
  | [] => True
  | x :: rest => x.IsJson ∧ AreJson rest

def PairsAreJson : List (Data × Data) → Prop
  | [] => True
  | (k, x) :: rest => (∃ key, k.untagged = .text key) ∧ x.IsJson ∧ PairsAreJson rest

end

theorem keyText_of_untagged {k : Data} {key : String} (h : k.untagged = .text key) :
    k.keyText = key := by
  rw [← keyText_untagged, h]
  rfl

theorem SpellsPairs.keys_eq {pairs : List (Data × Data)} {members : Mapping}
    (h : SpellsPairs pairs members) : members.keys = (entries pairs).keys := by
  induction pairs generalizing members with
  | nil =>
    cases h
    rfl
  | cons pair rest ih =>
    cases h with
    | cons hkey hx hrest => exact congrArg₂ List.cons (keyText_of_untagged hkey).symm (ih hrest)

/-- Data that spells one value only, which is its value. -/
theorem spells_leaf_iff {d : Data} {v w : Value} (hspells : d.Spells w) (hjson : w.IsJson)
    (hdata : d.IsJson) (hvalue : d.toValue = w) (honly : ∀ u, d.Spells u → u = w) :
    d.Spells v ∧ v.IsJson ↔ d.IsJson ∧ d.toValue = v := by
  constructor
  · rintro ⟨h, -⟩
    exact ⟨hdata, hvalue.trans (honly v h).symm⟩
  · rintro ⟨-, rfl⟩
    exact hvalue ▸ ⟨hspells, hjson⟩

theorem spells_number_iff (n : Number) (v : Value) :
    (Data.number n).Spells v ∧ v.IsJson ↔ n.Fits ∧ n.toValue = v := by
  constructor
  · rintro ⟨hspells, hjson⟩
    cases hspells with
    | int i => exact ⟨hjson, Number.toValue_int hjson⟩
    | float x => exact ⟨trivial, rfl⟩
    | infinity negative => exact ⟨trivial, rfl⟩
    | notANumber => exact ⟨trivial, rfl⟩
  · rintro ⟨hfits, rfl⟩
    cases n with
    | int i =>
      rw [Number.toValue_int hfits]
      exact ⟨.int i, hfits⟩
    | float x => exact ⟨.float x, trivial⟩
    | infinity negative => exact ⟨.infinity negative, trivial⟩
    | notANumber => exact ⟨.notANumber, trivial⟩

mutual

/-- **Spellings.** Data spells a JSON value exactly if it has JSON structure itself and that is its
    value. -/
theorem spells_iff : ∀ (d : Data) (v : Value), d.Spells v ∧ v.IsJson ↔ d.IsJson ∧ d.toValue = v
  | .null, v => spells_leaf_iff .null trivial trivial rfl fun _ h => by cases h; rfl
  | .bool b, v => spells_leaf_iff (.bool b) trivial trivial rfl fun _ h => by cases h; rfl
  | .text s, v => spells_leaf_iff (.text s) trivial trivial rfl fun _ h => by cases h; rfl
  | .number n, v => spells_number_iff n v
  | .sequence items, v => by
    constructor
    · rintro ⟨hspells, hjson⟩
      cases hspells with
      | sequence hitems =>
        obtain ⟨hdata, rfl⟩ := (spellsItems_iff items _).1 ⟨hitems, hjson⟩
        exact ⟨hdata, rfl⟩
    · rintro ⟨hdata, rfl⟩
      obtain ⟨hitems, hjson⟩ := (spellsItems_iff items _).2 ⟨hdata, rfl⟩
      exact ⟨.sequence hitems, hjson⟩
  | .mapping pairs, v => by
    constructor
    · rintro ⟨hspells, hjson⟩
      cases hspells with
      | mapping hpairs =>
        obtain ⟨hdistinct, hmembers⟩ := hjson
        have hapart : KeysApart pairs := by
          rwa [KeysApart, Mapping.DistinctKeys, ← hpairs.keys_eq]
        obtain ⟨hdata, hentries⟩ := (spellsPairs_iff pairs _).1 ⟨hpairs, hmembers⟩
        refine ⟨⟨hapart, hdata⟩, ?_⟩
        rw [toValue, hapart.toMembers_eq, hentries]
    · rintro ⟨⟨hapart, hdata⟩, rfl⟩
      obtain ⟨hpairs, hmembers⟩ := (spellsPairs_iff pairs _).2 ⟨hdata, rfl⟩
      rw [toValue, hapart.toMembers_eq]
      exact ⟨.mapping hpairs, hapart, hmembers⟩
  | .tagged tag x, v => by
    constructor
    · rintro ⟨hspells, hjson⟩
      cases hspells with
      | tagged hx => exact (spells_iff x v).1 ⟨hx, hjson⟩
    · intro h
      obtain ⟨hx, hjson⟩ := (spells_iff x v).2 h
      exact ⟨.tagged hx, hjson⟩

theorem spellsItems_iff : ∀ (items : List Data) (values : List Value),
    SpellsItems items values ∧ Value.AreJson values ↔ AreJson items ∧ toValues items = values
  | [], values => by
    constructor
    · rintro ⟨hspells, -⟩
      cases hspells
      exact ⟨trivial, rfl⟩
    · rintro ⟨-, rfl⟩
      exact ⟨.nil, trivial⟩
  | x :: rest, values => by
    constructor
    · rintro ⟨hspells, hjson⟩
      cases hspells with
      | cons hx hrest =>
        obtain ⟨hdata, rfl⟩ := (spells_iff x _).1 ⟨hx, hjson.1⟩
        obtain ⟨hrests, rfl⟩ := (spellsItems_iff rest _).1 ⟨hrest, hjson.2⟩
        exact ⟨⟨hdata, hrests⟩, rfl⟩
    · rintro ⟨⟨hdata, hrests⟩, rfl⟩
      obtain ⟨hx, hjson⟩ := (spells_iff x _).2 ⟨hdata, rfl⟩
      obtain ⟨hrest, hjsons⟩ := (spellsItems_iff rest _).2 ⟨hrests, rfl⟩
      exact ⟨.cons hx hrest, hjson, hjsons⟩

theorem spellsPairs_iff : ∀ (pairs : List (Data × Data)) (members : Mapping),
    SpellsPairs pairs members ∧ Value.MembersAreJson members ↔
      PairsAreJson pairs ∧ entries pairs = members
  | [], members => by
    constructor
    · rintro ⟨hspells, -⟩
      cases hspells
      exact ⟨trivial, rfl⟩
    · rintro ⟨-, rfl⟩
      exact ⟨.nil, trivial⟩
  | (k, x) :: rest, members => by
    constructor
    · rintro ⟨hspells, hjson⟩
      cases hspells with
      | cons hkey hx hrest =>
        obtain ⟨hdata, rfl⟩ := (spells_iff x _).1 ⟨hx, hjson.1⟩
        obtain ⟨hrests, rfl⟩ := (spellsPairs_iff rest _).1 ⟨hrest, hjson.2⟩
        refine ⟨⟨⟨_, hkey⟩, hdata, hrests⟩, ?_⟩
        rw [← keyText_of_untagged hkey]
        rfl
    · rintro ⟨⟨⟨key, hkey⟩, hdata, hrests⟩, rfl⟩
      obtain ⟨hx, hjson⟩ := (spells_iff x _).2 ⟨hdata, rfl⟩
      obtain ⟨hrest, hjsons⟩ := (spellsPairs_iff rest _).2 ⟨hrests, rfl⟩
      exact ⟨.cons (hkey.trans (congrArg _ (keyText_of_untagged hkey).symm)) hx hrest,
        hjson, hjsons⟩

end

/-- What becomes null: null, infinities and not-a-number, whatever their tags. -/
theorem toValue_eq_null_iff : ∀ d : Data, d.NumbersFit →
    (d.toValue = .null ↔ d.untagged = .null ∨ ∃ n, d.untagged = .number n ∧ ¬ n.IsFinite)
  | .tagged _ value, h => toValue_eq_null_iff value h
  | .null, _ => iff_of_true rfl (.inl rfl)
  | .number n, h => by
    rw [toValue, Number.toValue_eq_null_iff h]
    constructor
    · exact fun hn => .inr ⟨n, rfl, hn⟩
    · rintro (hnull | ⟨m, hm, hinfinite⟩)
      · cases hnull
      · cases hm
        exact hinfinite
  | .bool _, _ | .text _, _ | .sequence _, _ | .mapping _, _ => by
    refine iff_of_false (fun hnull => ?_) ?_
    · rw [toValue] at hnull
      cases hnull
    · rintro (hnull | ⟨n, hn, -⟩)
      · cases hnull
      · cases hn

end Data

end Yaml

open Yaml Yaml.Data

/-- **JSON data in YAML.** Let data have the structure of a JSON value, with tags wherever they may
    be. Then that is its value, member by member; and data that has a JSON value member by member
    spells it. Every value has data of its structure. Besides null, only infinities and
    not-a-number become null. So a JSON text and a YAML text of the same structure are decoded to
    the same value. -/
theorem agrees_of_spells :
    (∀ (d : Data) (v : Value), d.Spells v ∧ v.IsJson ↔ d.IsJson ∧ d.toValue = v) ∧
    (∀ v, (ofValue v).Spells v) ∧
    (∀ d : Data, d.NumbersFit → (d.toValue = .null ↔
      d.untagged = .null ∨ ∃ n, d.untagged = .number n ∧ ¬ n.IsFinite)) ∧
    ∀ json v, decode json (some .json) = .ok v → v.IsJson ∧
      ∀ yaml d, Yaml.data yaml = .ok d → d.NumbersFit ∧
        (d.Spells v → decode yaml (some .yaml) = .ok v) := by
  refine ⟨spells_iff, spells_ofValue, toValue_eq_null_iff, fun json v hjson => ?_⟩
  have hv : v.IsJson := isJson_of_decodeJson hjson
  refine ⟨hv, fun yaml d hyaml => ⟨numbersFit_of_data hyaml, fun hspells => ?_⟩⟩
  obtain ⟨-, hvalue⟩ := (spells_iff d v).1 ⟨hspells, hv⟩
  rw [decode, decodeYaml, hyaml, ← hvalue]
  rfl

/-- A list under a key with a tag: a number with a tag, and an infinity. -/
def taggedList : Data :=
  .mapping [(.tagged "k" (.text "a"),
    .sequence [.tagged "n" (.number (.int (-1))), .number (.infinity false)])]

def untaggedList : Value :=
  .mapping [("a", .list [.number (.int (-1)), .null])]

theorem agrees_taggedList :
    decode "\x7b\"a\":[-1,null]\x7d" (some .json) = .ok untaggedList ∧
      Yaml.data "!k a: [!n -1, .inf]" = .ok taggedList ∧ taggedList.NumbersFit ∧
      taggedList.toValue ≠ .null ∧ taggedList.Spells untaggedList ∧
      decode "!k a: [!n -1, .inf]" (some .yaml) = .ok untaggedList := by
  have hjson : decode "\x7b\"a\":[-1,null]\x7d" (some .json) = .ok untaggedList := by cbv
  have hyaml : Yaml.data "!k a: [!n -1, .inf]" = .ok taggedList := by cbv
  have hitems : SpellsItems [.tagged "n" (.number (.int (-1))), .number (.infinity false)]
      [.number (.int (-1)), .null] :=
    .cons (.tagged (.int (-1))) (.cons (.infinity false) .nil)
  have hspells : taggedList.Spells untaggedList :=
    .mapping (.cons rfl (.sequence hitems) .nil)
  obtain ⟨-, -, hnull, hread⟩ := agrees_of_spells
  obtain ⟨hfits, hdecoded⟩ := (hread _ _ hjson).2 _ _ hyaml
  refine ⟨hjson, hyaml, hfits, ?_, hspells, hdecoded hspells⟩
  rw [Ne, hnull taggedList hfits]
  rintro (h | ⟨n, h, -⟩)
  · cases h
  · cases h

end InfraDiagram
