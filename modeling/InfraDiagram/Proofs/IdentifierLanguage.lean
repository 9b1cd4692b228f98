import InfraDiagram.Proofs.Identifiers

/-!
# Identifiers are a language of their own

The identifiers for names are just the bare and the quoted ones. Naming an identifier again changes
nothing, a number at its end leaves it an identifier, and two identifiers have one identity only if
they are the same word with and without quotes.

## Main definitions

- `Id.Quotes` — a bare word and the same word in quotes

## Main statements

- `Id.ofName_eq_self_iff` — the names that are their own identifiers
- `Id.canonical_eq_iff` — identifiers with one identity
- `identifiers_closed` — naming, numbering and identities together
-/

namespace InfraDiagram

namespace Dot.Id

open Text

-- ════════════════════════════════════════════════════════════════════════
-- Names that stay as they are
-- ════════════════════════════════════════════════════════════════════════

theorem ofName_eq_self_iff {s : String} : ofName s = s ↔ IsIdentifier s := by
  constructor
  · intro h
    exact h ▸ isIdentifier_ofName s
  · intro h
    rw [ofName, if_pos ((Bool.or_eq_true _ _).mpr h)]

theorem ofName_ofName (s : String) : ofName (ofName s) = ofName s :=
  ofName_eq_self_iff.2 (isIdentifier_ofName s)

theorem ofName_suffixed {s : String} (h : IsIdentifier s) (n : Nat) :
    ofName (suffixed s n) = suffixed s n :=
  ofName_eq_self_iff.2 (isIdentifier_suffixed h n)

-- ════════════════════════════════════════════════════════════════════════
-- Words in quotes
-- ════════════════════════════════════════════════════════════════════════

/-- An identifier that is a bare word in quotes. -/
def Quotes (word id : String) : Prop :=
  isBare word = true ∧ id = "\"" ++ word ++ "\""

theorem isEscaped_of_isBare {s : String} (h : isBare s = true) : isEscaped s.toList = true := by
  rw [isBare, Bool.and_eq_true] at h
  exact isEscaped_of_plain fun c hc => plain_of_isWordChar (isWordChar_of_isWord h.1 c hc)

theorem Quotes.toList_eq {word id : String} (h : Quotes word id) :
    id.toList = '"' :: (word.toList ++ ['"']) := by
  rw [h.2]
  simp

/-- A word and the same word in quotes have one identity. -/
theorem Quotes.canonical_eq {word id : String} (h : Quotes word id) :
    canonical id = canonical word := by
  rw [canonical_of_quoted (isEscaped_of_isBare h.1) h.toList_eq,
    canonical_of_not_quoted (isQuoted_of_isBare h.1), String.ofList_toList]

/-- A bare word has the identity of a quoted identifier only if it is what stands in the quotes. -/
theorem quotes_of_canonical_eq {word id : String} (hword : isBare word = true)
    (hid : isQuoted id = true) (h : canonical word = canonical id) : Quotes word id := by
  obtain ⟨cs, hcs, hlist⟩ := isQuoted_iff.1 hid
  rw [canonical_of_not_quoted (isQuoted_of_isBare hword), canonical_of_quoted hcs hlist] at h
  refine ⟨hword, ?_⟩
  rw [← String.toList_inj, hlist, h]
  simp

theorem canonical_inj_of_quoted {s t : String} (hs : isQuoted s = true) (ht : isQuoted t = true)
    (h : canonical s = canonical t) : s = t := by
  obtain ⟨cs, hcs, hslist⟩ := isQuoted_iff.1 hs
  obtain ⟨ds, hds, htlist⟩ := isQuoted_iff.1 ht
  rw [canonical_of_quoted hcs hslist, canonical_of_quoted hds htlist, String.ofList_inj] at h
  rw [← String.toList_inj, hslist, htlist, h]

/-- Two identifiers have one identity if they are equal, or one of them is a bare word and the
    other one is that word in quotes. -/
theorem canonical_eq_iff {s t : String} (hs : IsIdentifier s) (ht : IsIdentifier t) :
    canonical s = canonical t ↔ s = t ∨ Quotes s t ∨ Quotes t s := by
  constructor
  · intro h
    rcases hs with hsbare | hsquoted
    · rcases ht with htbare | htquoted
      · left
        rwa [canonical_of_not_quoted (isQuoted_of_isBare hsbare),
          canonical_of_not_quoted (isQuoted_of_isBare htbare)] at h
      · exact .inr (.inl (quotes_of_canonical_eq hsbare htquoted h))
    · rcases ht with htbare | htquoted
      · exact .inr (.inr (quotes_of_canonical_eq htbare hsquoted h.symm))
      · exact .inl (canonical_inj_of_quoted hsquoted htquoted h)
  · rintro (rfl | hquotes | hquotes)
    · rfl
    · exact hquotes.canonical_eq.symm
    · exact hquotes.canonical_eq

end Dot.Id

open Dot.Id

/-- **Identifiers are a language of their own.** What names become is exactly what stays as it is
    when it is named again. A number at the end of an identifier stays within the language and
    shows in the identity, so different numbers give different identities. -/
theorem identifiers_closed :
    (∀ id, (∃ raw, ofName raw = id) ↔ IsIdentifier id) ∧
    (∀ raw, IsIdentifier (ofName raw) ∧ ofName (ofName raw) = ofName raw) ∧
    (∀ raw n, ofName (suffixed (ofName raw) n) = suffixed (ofName raw) n ∧
      canonical (suffixed (ofName raw) n) = canonical (ofName raw) ++ "_" ++ toString n) ∧
    (∀ raw, Function.Injective fun n => canonical (suffixed (ofName raw) n)) ∧
    ∀ raw raw', canonical (ofName raw) = canonical (ofName raw') ↔
      ofName raw = ofName raw' ∨ Quotes (ofName raw) (ofName raw') ∨
        Quotes (ofName raw') (ofName raw) := by
  refine ⟨fun id => ?_, fun raw => ⟨isIdentifier_ofName raw, ofName_ofName raw⟩,
    fun raw n => ⟨ofName_suffixed (isIdentifier_ofName raw) n, canonical_suffixed _ n⟩,
    fun raw => canonical_suffixed_injective _,
    fun raw raw' => canonical_eq_iff (isIdentifier_ofName raw) (isIdentifier_ofName raw')⟩
  constructor
  · rintro ⟨raw, rfl⟩
    exact isIdentifier_ofName raw
  · intro h
    exact ⟨id, ofName_eq_self_iff.2 h⟩

end InfraDiagram
