import InfraDiagram.Proofs.Attributes

/-!
# Labels are read back

Escaping a label and reading it again gives the text as it is shown: tabs are spaces, line feeds
stay, and the other control characters are gone. The reader refuses everything that escaping does
not write, so whatever it reads has one written form.

## Main statements

- `Text.unescape?_append` — texts that can be read are read one after the other
- `Text.unescape?_escape` — a text is read back as it is shown
- `Text.unescape?_eq_some_iff` — what can be read at all
- `unescape?_label_and_lines` — labels and the lines of labels
-/

namespace InfraDiagram

namespace Text

-- ════════════════════════════════════════════════════════════════════════
-- Shown text
-- ════════════════════════════════════════════════════════════════════════

theorem shown_cons (c : Char) (cs : List Char) :
    shown (c :: cs) = (shownChar c).toList ++ shown cs := by
  cases h : shownChar c <;> simp [shown, h]

-- ════════════════════════════════════════════════════════════════════════
-- Reading
-- ════════════════════════════════════════════════════════════════════════

/-- A character that needs no escape is read as it is. -/
theorem unescape?_cons_of_plain {c : Char} (h : c ≠ '\\' ∧ c ≠ '"' ∧ isControl c = false)
    (rest : List Char) : unescape? (c :: rest) = (unescape? rest).map (c :: ·) := by
  obtain ⟨hbackslash, hquote, hcontrol⟩ := h
  simp [unescape?, hbackslash, hquote, hcontrol]

/-- Texts that can be read are read one after the other. -/
theorem unescape?_append {cs ds s t : List Char} (hs : unescape? cs = some s)
    (ht : unescape? ds = some t) : unescape? (cs ++ ds) = some (s ++ t) := by
  fun_induction unescape? cs generalizing s with
  | case1 =>
    obtain rfl : [] = s := Option.some.inj hs
    exact ht
  | case2 rest ih | case3 rest ih | case4 rest ih =>
    obtain ⟨u, hu, rfl⟩ := Option.map_eq_some_iff.1 hs
    simp only [List.cons_append, unescape?, ih hu, Option.map_some]
  | case5 => cases hs
  | case6 c rest hbackslash hquote hline h ih =>
    obtain ⟨u, hu, rfl⟩ := Option.map_eq_some_iff.1 hs
    simp only [Bool.or_eq_true, decide_eq_true_eq, not_or, Bool.not_eq_true] at h
    rw [List.cons_append, unescape?_cons_of_plain ⟨h.1.1, h.1.2, h.2⟩, ih hu]
    rfl

theorem unescape?_escapeChar (c : Char) :
    unescape? (escapeChar c) = some (shownChar c).toList := by
  by_cases hbackslash : c = '\\'
  · subst hbackslash
    rfl
  by_cases hquote : c = '"'
  · subst hquote
    rfl
  by_cases hline : c = '\n'
  · subst hline
    rfl
  by_cases htab : c = '\t'
  · subst htab
    rfl
  by_cases hcontrol : isControl c = true
  · simp [escapeChar, shownChar, hbackslash, hquote, hline, htab, hcontrol, unescape?]
  · have hplain : c ≠ '\\' ∧ c ≠ '"' ∧ isControl c = false :=
      ⟨hbackslash, hquote, (Bool.not_eq_true _).mp hcontrol⟩
    simp [escapeChar, shownChar, hbackslash, hquote, hline, htab, hcontrol,
      unescape?_cons_of_plain hplain, unescape?]

/-- A text is read back as it is shown. -/
theorem unescape?_escape (cs : List Char) : unescape? (escape cs) = some (shown cs) := by
  induction cs with
  | nil => rfl
  | cons c cs ih =>
    rw [shown_cons]
    exact unescape?_append (unescape?_escapeChar c) ih

/-- What was read is shown as it is, and escaping it gives what it was read from. -/
theorem eq_escape_of_unescape? {cs s : List Char} (h : unescape? cs = some s) :
    cs = escape s ∧ shown s = s := by
  fun_induction unescape? cs generalizing s with
  | case1 =>
    obtain rfl : [] = s := Option.some.inj h
    exact ⟨rfl, rfl⟩
  | case2 rest ih | case3 rest ih | case4 rest ih =>
    obtain ⟨u, hu, rfl⟩ := Option.map_eq_some_iff.1 h
    obtain ⟨rfl, hshown⟩ := ih hu
    refine ⟨rfl, ?_⟩
    rw [shown_cons, hshown]
    rfl
  | case5 => cases h
  | case6 c rest hbackslash hquote hline hplain ih =>
    obtain ⟨u, hu, rfl⟩ := Option.map_eq_some_iff.1 h
    obtain ⟨rfl, hshown⟩ := ih hu
    simp only [Bool.or_eq_true, decide_eq_true_eq, not_or, Bool.not_eq_true] at hplain
    obtain ⟨⟨hb, hq⟩, hcontrol⟩ := hplain
    have hn : c ≠ '\n' := by
      rintro rfl
      exact absurd hcontrol (by decide)
    have ht : c ≠ '\t' := by
      rintro rfl
      exact absurd hcontrol (by decide)
    refine ⟨?_, ?_⟩
    · simp [escape, escapeChar, hb, hq, hn, ht, hcontrol]
    · rw [shown_cons, hshown]
      simp [shownChar, hn, ht, hcontrol]

/-- The reader accepts what escaping writes, and nothing else. -/
theorem unescape?_eq_some_iff {cs s : List Char} :
    unescape? cs = some s ↔ cs = escape s ∧ shown s = s := by
  constructor
  · exact eq_escape_of_unescape?
  · rintro ⟨rfl, hshown⟩
    rw [unescape?_escape, hshown]

-- ════════════════════════════════════════════════════════════════════════
-- Lines
-- ════════════════════════════════════════════════════════════════════════

/-- The lines of a label as they are shown, those that are blank left out. -/
def shownLines (lines : List String) : List Char :=
  ['\n'].intercalate ((lines.filter fun line => !isBlank line).map fun line => shown line.toList)

/-- Pieces joined by line breaks are read as lines. -/
theorem unescape?_intercalate (lines : List String) :
    unescape? (lineBreak.intercalate (lines.map fun line => escape line.toList)) =
      some (['\n'].intercalate (lines.map fun line => shown line.toList)) := by
  induction lines with
  | nil => rfl
  | cons line rest ih =>
    have hline := unescape?_escape line.toList
    cases rest with
    | nil => simpa [List.intercalate] using hline
    | cons next rest =>
      have hbreak : unescape? lineBreak = some ['\n'] := rfl
      simp only [List.map_cons, List.intercalate_cons_cons]
      exact unescape?_append (unescape?_append hline hbreak) ih

theorem unescape?_escapeLines (lines : List String) :
    unescape? (escapeLines lines).toList = some (shownLines lines) := by
  rw [escapeLines, String.toList_ofList]
  exact unescape?_intercalate _

end Text

open Text

/-- **Labels are read back.** Reading an escaped text never fails, and gives the text as it is
    shown. Reading escaped lines gives the lines as they are shown, those that are blank left out,
    with line feeds between them, and the lines in quotes are an identifier as it stands. The
    reader accepts nothing but escaped text. -/
theorem unescape?_label_and_lines :
    (∀ raw, unescape? (escapeLabel raw).toList = some (shown raw.toList)) ∧
    (∀ lines, unescape? (escapeLines lines).toList = some (shownLines lines) ∧
      Dot.Id.isQuoted ("\"" ++ escapeLines lines ++ "\"") = true) ∧
    ∀ cs s, unescape? cs = some s ↔ cs = escape s ∧ shown s = s := by
  refine ⟨fun raw => ?_, fun lines => ⟨unescape?_escapeLines lines, Dot.Id.isQuoted_lines lines⟩,
    fun cs s => unescape?_eq_some_iff⟩
  rw [escapeLabel, String.toList_ofList]
  exact unescape?_escape raw.toList

end InfraDiagram
