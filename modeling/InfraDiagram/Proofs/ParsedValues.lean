import Mathlib.Algebra.Group.Int.Defs
import InfraDiagram.Document.Decode
import InfraDiagram.Proofs.Agreement

/-!
# Values that JSON texts hold

Reading JSON gives integers that fit 64 bits, signed or unsigned, finite fractions, and mappings
without repeated keys, however deep they are nested. These are the values that the other readers
are measured by.

## Main definitions

- `Value.IsJson` — a value that a JSON text can hold

## Main statements

- `Json.isWord_of_number` — numbers
- `Json.isJson_of_listItems`, `Json.isJson_of_mappingMembers` — the loops of the reader
- `Json.isJson_of_parse` — documents
-/

namespace InfraDiagram

-- ════════════════════════════════════════════════════════════════════════
-- JSON values
-- ════════════════════════════════════════════════════════════════════════

/-- An integer that fits 64 bits, signed or unsigned, or a fraction. -/
def Number.IsWord : Number → Prop
  | .int i => -2 ^ 63 ≤ i ∧ i < 2 ^ 64
  | .float _ => True

namespace Value

mutual

/-- Integers fit 64 bits, and no mapping has a key twice. -/
def IsJson : Value → Prop
  | .null | .bool _ | .text _ => True
  | .number n => n.IsWord
  | .list items => AreJson items
  | .mapping members => Mapping.DistinctKeys members ∧ MembersAreJson members

def AreJson : List Value → Prop
  | [] => True
  | v :: rest => v.IsJson ∧ AreJson rest

def MembersAreJson : List (String × Value) → Prop
  | [] => True
  | (_, v) :: rest => v.IsJson ∧ MembersAreJson rest

end

theorem areJson_iff {items : List Value} : AreJson items ↔ ∀ v ∈ items, v.IsJson := by
  induction items with
  | nil => simp [AreJson]
  | cons v rest ih => rw [AreJson, List.forall_mem_cons, ih]

theorem membersAreJson_iff {members : Mapping} :
    MembersAreJson members ↔ ∀ member ∈ members, member.2.IsJson := by
  induction members with
  | nil => simp [MembersAreJson]
  | cons member rest ih => rw [MembersAreJson, List.forall_mem_cons, ih]

end Value

namespace Mapping

theorem isJson_insert {m : Mapping} (hm : (Value.mapping m).IsJson) (key : String) {value : Value}
    (hvalue : value.IsJson) : (Value.mapping (m.insert key value)).IsJson := by
  rw [Value.IsJson, Value.membersAreJson_iff, DistinctKeys] at hm ⊢
  rw [insert_eq_put]
  refine ⟨Entries.nodup_keys_put hm.1 key value, fun member hmember => ?_⟩
  rcases Entries.mem_put hmember with rfl | hold
  · exact hvalue
  · exact hm.2 member hold

end Mapping

-- ════════════════════════════════════════════════════════════════════════
-- The reader
-- ════════════════════════════════════════════════════════════════════════

namespace Json

theorem gives_next {α : Type} {P : α → Prop} (c : Cursor) (cause : Cause) :
    Gives (c.next cause) P := by
  unfold Cursor.next
  split
  · exact .error _
  · exact .error _

theorem isWord_of_floatOf {negative : Bool} {digits : List Char} {exponent : Int} {c : Cursor} :
    Gives (floatOf negative digits exponent c) fun read => read.1.IsWord := by
  unfold floatOf
  split
  · exact .ok trivial
  · exact .error _

theorem isWord_of_exponentPart {negative : Bool} {digits : List Char} {scale : Int} {c : Cursor} :
    Gives (exponentPart negative digits scale c) fun read => read.1.IsWord := by
  unfold exponentPart
  dsimp only
  split
  · exact .error _
  · split_ifs
    · exact .error _
    · exact .ok trivial
    · exact isWord_of_floatOf
    · exact isWord_of_floatOf
    · exact gives_next _ _

theorem isWord_of_afterWhole {negative : Bool} {whole : List Char} {c : Cursor} :
    Gives (afterWhole negative whole c) fun read => read.1.IsWord := by
  unfold afterWhole
  dsimp only
  split
  · split_ifs
    · exact gives_next _ _
    · exact gives_next _ _
    · split
      · exact isWord_of_exponentPart
      · exact isWord_of_exponentPart
      · exact isWord_of_floatOf
  · exact isWord_of_exponentPart
  · exact isWord_of_exponentPart
  · split_ifs with hunsigned hsigned
    · simp only [Bool.and_eq_true, decide_eq_true_eq] at hunsigned
      exact .ok ⟨by omega, by exact_mod_cast hunsigned.2⟩
    · simp only [Bool.and_eq_true, decide_eq_true_eq] at hsigned
      exact .ok ⟨by omega, by omega⟩
    · exact isWord_of_floatOf

theorem isWord_of_number {negative : Bool} {c : Cursor} :
    Gives (number negative c) fun read => read.1.IsWord := by
  unfold number
  split
  · exact .error _
  · split_ifs
    · exact gives_next _ _
    · exact isWord_of_afterWhole
  · split_ifs
    · exact isWord_of_afterWhole
    · exact gives_next _ _

theorem isJson_of_listItems {item : ValueReader}
    (hitem : ∀ c, Gives (item c) fun read => read.1.IsJson) {seen : List Value}
    (hseen : ∀ v ∈ seen, v.IsJson) (c : Cursor) (fuel : Nat) :
    Gives (listItems item seen c fuel) fun read => read.1.IsJson := by
  induction fuel generalizing seen c with
  | zero => exact .error _
  | succ fuel ih =>
    have hmore : ∀ separated : Except Error Cursor, Gives (separated >>= fun c =>
        item c >>= fun read => listItems item (read.1 :: seen) read.2 fuel)
        fun read => read.1.IsJson := fun separated =>
      (Gives.any separated).bind fun c _ => (hitem c).bind fun read hread =>
        ih (List.forall_mem_cons.2 ⟨hread, hseen⟩) read.2
    unfold listItems
    dsimp only
    split
    · exact gives_next _ _
    · exact .ok (Value.areJson_iff.2 fun v hv => hseen v (List.mem_reverse.1 hv))
    · split_ifs
      · exact hmore _
      · split <;> exact hmore _
      · exact hmore _

theorem isJson_of_mappingMembers {item : ValueReader}
    (hitem : ∀ c, Gives (item c) fun read => read.1.IsJson) {seen : Mapping}
    (hseen : (Value.mapping seen).IsJson) (first : Bool) (c : Cursor) (fuel : Nat) :
    Gives (mappingMembers item first seen c fuel) fun read => read.1.IsJson := by
  induction fuel generalizing seen first c with
  | zero => exact .error _
  | succ fuel ih =>
    have hmore : ∀ separated : Except Error Cursor, Gives (separated >>= fun c =>
        string fuel c.skip >>= fun key => colon key.2 >>= fun c => item c >>= fun read =>
          mappingMembers item false (Mapping.insert key.1 read.1 seen) read.2 fuel)
        fun read => read.1.IsJson := fun separated =>
      (Gives.any separated).bind fun _ _ => (Gives.any _).bind fun key _ =>
        (Gives.any _).bind fun c _ => (hitem c).bind fun read hread =>
          ih (Mapping.isJson_insert hseen key.1 hread) false read.2
    unfold mappingMembers
    dsimp only
    split
    · exact gives_next _ _
    · exact .ok hseen
    · split_ifs
      · exact hmore _
      · exact hmore _
      · split <;> exact hmore _
      · exact hmore _

/-- A value whose inner values are JSON is JSON itself. -/
theorem isJson_of_valueWith (fuel : Nat) {inner : Option ValueReader}
    (hinner : ∀ item ∈ inner, ∀ c, Gives (item c) fun read => read.1.IsJson) (c : Cursor) :
    Gives (valueWith fuel inner c) fun read => read.1.IsJson := by
  have hword : ∀ (c : Cursor) (word : List Char) {v : Value}, v.IsJson →
      Gives (do return (v, ← c.word word)) fun read => read.1.IsJson :=
    fun c word v hv => (Gives.any _).bind fun _ _ => .ok hv
  unfold valueWith
  dsimp only
  split
  · exact gives_next _ _
  · exact hword _ _ trivial
  · exact hword _ _ trivial
  · exact hword _ _ trivial
  · exact isWord_of_number.bind fun read hread => .ok hread
  · exact (Gives.any _).bind fun _ _ => .ok trivial
  · split
    · exact isJson_of_listItems (hinner _ rfl) (by simp) _ fuel
    · exact gives_next _ _
  · split
    · exact isJson_of_mappingMembers (hinner _ rfl) ⟨Entries.nodup_keys_nil, trivial⟩ true _ fuel
    · exact gives_next _ _
  · split_ifs
    · exact isWord_of_number.bind fun read hread => .ok hread
    · exact gives_next _ _

theorem isJson_of_value (fuel depth : Nat) (c : Cursor) :
    Gives (value fuel depth c) fun read => read.1.IsJson := by
  induction depth generalizing c with
  | zero => exact isJson_of_valueWith fuel (by simp) c
  | succ depth ih =>
    refine isJson_of_valueWith fuel ?_ c
    rintro item ⟨⟩
    exact ih

/-- **Documents.** What a JSON text is read as is a JSON value. -/
theorem isJson_of_parse {text : String} {v : Value} (h : parse text = .ok v) : v.IsJson := by
  refine ((isJson_of_value _ documentDepth _).bind fun read hread => ?_) v h
  dsimp only
  split_ifs
  · exact .ok hread
  · exact gives_next _ _

end Json

theorem isJson_of_decodeJson {text : String} {v : Value} (h : decodeJson text = .ok v) :
    v.IsJson := by
  cases hparse : Json.parse text with
  | error e =>
    rw [decodeJson, hparse] at h
    cases h
  | ok w =>
    rw [decodeJson, hparse] at h
    obtain rfl : w = v := Except.ok.inj h
    exact Json.isJson_of_parse hparse

end InfraDiagram
