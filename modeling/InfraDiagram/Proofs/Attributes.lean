import InfraDiagram.Drawing.Style
import InfraDiagram.Link.Connection
import InfraDiagram.Proofs.Identifiers
import InfraDiagram.Proofs.OrderedEntries

/-!
# Attributes that print well

Every attribute that is ever drawn has a bare word for its name, and a word, a numeral or a quoted
text for its value, whatever the document says.

## Main definitions

- `Id.IsLexeme` — words, numerals and quoted texts
- `Attrs.IsPrintable` — attribute lists made of these
- `Attrs.isInvisible` — what tells ordering edges from visible ones

## Main statements

- `Attrs.entries_set`, `Attrs.entries_merge` — attribute lists by what is written to their entries
- `Attrs.IsPrintable.raw`, `Attrs.IsPrintable.text`, `Attrs.IsPrintable.lines`,
  `Attrs.IsPrintable.merge` — the ways to set attributes keep them so
- `Connection.edgeAttrs_induction` — what the edges of connections may say
-/

namespace InfraDiagram

open Dot Text

namespace Dot.Id

/-- Digits, and points behind the first of them. -/
def isNumeral : List Char → Bool
  | [] => false
  | c :: rest => isAsciiDigit c && rest.all fun d => isAsciiDigit d || d = '.'

/-- A text that a statement can use as a value as it stands. -/
def IsLexeme (s : String) : Prop :=
  IsIdentifier s ∨ isNumeral s.toList = true

instance (s : String) : Decidable (IsLexeme s) :=
  inferInstanceAs (Decidable (_ ∨ _))

theorem isLexeme_of_isBare {s : String} (h : isBare s = true) : IsLexeme s :=
  .inl (.inl h)

theorem isQuoted_of_isEscaped {cs : List Char} (h : isEscaped cs = true) :
    isQuoted ("\"" ++ String.ofList cs ++ "\"") = true :=
  isQuoted_iff.2 ⟨cs, h, by simp⟩

theorem isEscaped_intercalate {sep : List Char} (hsep : isEscaped sep = true)
    {parts : List (List Char)} (h : ∀ cs ∈ parts, isEscaped cs = true) :
    isEscaped (sep.intercalate parts) = true := by
  induction parts with
  | nil => rfl
  | cons cs rest ih =>
    have hrest := ih fun ds hds => h ds (by simp [hds])
    cases rest with
    | nil => simpa [List.intercalate] using h cs (by simp)
    | cons ds rest =>
      rw [List.intercalate_cons_cons]
      exact isEscaped_append (isEscaped_append (h cs (by simp)) hsep) hrest

theorem isLexeme_label (s : String) : IsLexeme ("\"" ++ escapeLabel s ++ "\"") :=
  .inl (.inr (isQuoted_of_isEscaped (isEscaped_escape _)))

theorem isQuoted_lines (lines : List String) :
    isQuoted ("\"" ++ escapeLines lines ++ "\"") = true := by
  refine isQuoted_of_isEscaped (isEscaped_intercalate (by decide) fun cs hcs => ?_)
  obtain ⟨line, -, rfl⟩ := List.mem_map.1 hcs
  exact isEscaped_escape _

theorem isLexeme_lines (lines : List String) : IsLexeme ("\"" ++ escapeLines lines ++ "\"") :=
  .inl (.inr (isQuoted_lines lines))

end Dot.Id

namespace Dot.Attrs

/-- Names are bare words, and values are lexemes. -/
def IsPrintable (attrs : Attrs) : Prop :=
  ∀ entry ∈ attrs.entries, Id.isBare entry.1 = true ∧ Id.IsLexeme entry.2

instance (attrs : Attrs) : Decidable attrs.IsPrintable :=
  inferInstanceAs (Decidable (∀ entry ∈ attrs.entries, _))

/-- Whether an edge with these attributes only orders its ends. -/
def isInvisible (attrs : Attrs) : Bool :=
  attrs.get? "style" == some "invis"

theorem isPrintable_empty : IsPrintable empty := by
  intro entry h
  simp [empty] at h

theorem setIn_eq_put (key value : String) (entries : Entries String) :
    setIn key value entries = Entries.put key value entries := by
  induction entries with
  | nil => rfl
  | cons entry rest ih => rw [setIn, Entries.put, ih]

theorem entries_set (attrs : Attrs) (key value : String) :
    (attrs.set key value).entries = Entries.put key value attrs.entries :=
  setIn_eq_put key value attrs.entries

theorem entries_merge (attrs later : Attrs) :
    (attrs.merge later).entries = Entries.putAll attrs.entries later.entries := by
  obtain ⟨pairs⟩ := later
  simp only [merge]
  induction pairs generalizing attrs with
  | nil => rfl
  | cons pair rest ih => rw [List.foldl_cons, ih, entries_set, Entries.putAll_cons]

theorem get?_set (attrs : Attrs) (key value other : String) :
    (attrs.set key value).get? other = if other = key then some value else attrs.get? other := by
  rw [get?, entries_set]
  exact Entries.lookup_put attrs.entries key value other

/-- What attributes say that others are merged into is kept if those do not say it. -/
theorem get?_merge_of_eq_none {attrs later : Attrs} {key : String} (h : later.get? key = none) :
    (attrs.merge later).get? key = attrs.get? key := by
  rw [get?, List.lookup_eq_none_iff] at h
  have hreverse : later.entries.reverse.lookup key = none :=
    List.lookup_eq_none_iff.2 fun entry hentry => h entry (List.mem_reverse.1 hentry)
  rw [get?, entries_merge, Entries.lookup_putAll, hreverse]
  rfl

namespace IsPrintable

variable {attrs later : Attrs} {key : String}

theorem set (h : attrs.IsPrintable) (hkey : Id.isBare key = true) {value : String}
    (hvalue : Id.IsLexeme value) : (attrs.set key value).IsPrintable := by
  intro entry hentry
  rw [entries_set] at hentry
  rcases Entries.mem_put hentry with rfl | hentry
  · exact ⟨hkey, hvalue⟩
  · exact h entry hentry

theorem raw (h : attrs.IsPrintable) (hkey : Id.isBare key = true) {value : String}
    (hvalue : Id.isBare value = true ∨ Id.isNumeral value.toList = true) :
    (attrs.raw key value).IsPrintable :=
  h.set hkey (hvalue.imp_left .inl)

theorem text (h : attrs.IsPrintable) (hkey : Id.isBare key = true) (value : String) :
    (attrs.text key value).IsPrintable :=
  h.set hkey (Id.isLexeme_label value)

theorem lines (h : attrs.IsPrintable) (hkey : Id.isBare key = true) (values : List String) :
    (attrs.lines key values).IsPrintable :=
  h.set hkey (Id.isLexeme_lines values)

theorem merge (h : attrs.IsPrintable) (hlater : later.IsPrintable) :
    (attrs.merge later).IsPrintable := by
  obtain ⟨entries⟩ := later
  simp only [Attrs.merge]
  induction entries generalizing attrs with
  | nil => exact h
  | cons first rest ih =>
    obtain ⟨hfirst, hrest⟩ := List.forall_mem_cons.1 hlater
    exact ih (h.set hfirst.1 hfirst.2) hrest

end IsPrintable

theorem isInvisible_set_of_ne {attrs : Attrs} {key value : String} (h : key ≠ "style") :
    (attrs.set key value).isInvisible = attrs.isInvisible := by
  rw [isInvisible, get?_set, if_neg (Ne.symm h), isInvisible]

theorem isInvisible_text_of_ne {attrs : Attrs} {key value : String} (h : key ≠ "style") :
    (attrs.text key value).isInvisible = attrs.isInvisible :=
  isInvisible_set_of_ne h

theorem isInvisible_style {attrs : Attrs} {value : String} :
    (attrs.raw "style" value).isInvisible = (value == "invis") := by
  rw [isInvisible, raw, get?_set, if_pos rfl, Option.some_beq_some]

end Dot.Attrs

namespace Style

open Attrs

theorem isBare_shape (type : String) : Id.isBare (shapeAndFill type).1 = true := by
  unfold shapeAndFill
  split <;> decide

theorem isPrintable_device (type : String) : (device type).IsPrintable :=
  (isPrintable_empty.raw (by decide) (.inl (isBare_shape _))).text (by decide) _

/-- The styles that say the same of everything they are given to. -/
theorem isPrintable_of_mem : ∀ attrs ∈ [anchor, port, site, intent, cluster none, portLink],
    attrs.IsPrintable := by
  decide +kernel

theorem isPrintable_anchor : anchor.IsPrintable :=
  isPrintable_of_mem _ (by simp)

theorem isPrintable_port : port.IsPrintable :=
  isPrintable_of_mem _ (by simp)

theorem isPrintable_peer (type : String) : (peer type).IsPrintable :=
  (isPrintable_device type).text (by decide) _

theorem isPrintable_site : site.IsPrintable :=
  isPrintable_of_mem _ (by simp)

theorem isPrintable_intent : intent.IsPrintable :=
  isPrintable_of_mem _ (by simp)

theorem isPrintable_cluster (label : Option String) : (cluster label).IsPrintable := by
  have hplain : (cluster none).IsPrintable := isPrintable_of_mem _ (by simp)
  cases label with
  | none => exact hplain
  | some label => exact hplain.text (by decide) label

theorem isPrintable_portLink : portLink.IsPrintable :=
  isPrintable_of_mem _ (by simp)

theorem isInvisible_portLink : portLink.isInvisible = false := by
  rw [portLink, text, isInvisible_set_of_ne (by decide), isInvisible_style]
  rfl

end Style

namespace Connection

/-- What holds of no attributes, and goes on holding when a label, a line style or a color is set,
    holds of the edge of every connection. -/
theorem edgeAttrs_induction {P : Attrs → Prop} (c : Connection) (hempty : P .empty)
    (hset : ∀ attrs key value, key ∈ ["label", "style", "color", "fontcolor"] →
      Id.IsLexeme value → value ≠ "invis" → P attrs → P (attrs.set key value)) :
    P c.edgeAttrs := by
  have hquoted : ∀ cs : List Char, "\"" ++ String.ofList cs ++ "\"" ≠ "invis" := by
    intro cs h
    have hfirst := congrArg (fun s : String => s.toList.head?) h
    simp at hfirst
  have hword : ∀ attrs value, value ∈ ["dashed", "dotted"] → P attrs →
      P (attrs.raw "style" value) := by
    intro attrs value hvalue h
    have hshape : Id.IsLexeme value ∧ value ≠ "invis" := by
      revert value
      decide
    exact hset attrs "style" value (by decide) hshape.1 hshape.2 h
  have htext : ∀ attrs key value, key ∈ ["label", "style", "color", "fontcolor"] → P attrs →
      P (attrs.text key value) := fun attrs key value hkey =>
    hset attrs key _ hkey (Id.isLexeme_label value) (hquoted _)
  have hlabelled : P (if c.label.any fun line => !isBlank line then
      Attrs.empty.lines "label" c.label else Attrs.empty) := by
    split_ifs
    · exact hset _ "label" _ (by decide) (Id.isLexeme_lines c.label) (hquoted _) hempty
    · exact hempty
  have hstyled : ∀ attrs, P attrs → P (LineStyle.apply c.style attrs) := by
    intro attrs h
    cases c.style with
    | solid => exact h
    | dashed => exact hword _ _ (by decide) h
    | dotted => exact hword _ _ (by decide) h
    | inactive => exact htext _ _ _ (by decide) (htext _ _ _ (by decide) (hword _ _ (by decide) h))
  by_cases hpower : c.category = .power
  · simp only [edgeAttrs, if_pos hpower]
    exact htext _ _ _ (by decide) (hstyled _ hlabelled)
  · simp only [edgeAttrs, if_neg hpower]
    exact hstyled _ hlabelled

theorem isPrintable_edgeAttrs (c : Connection) : c.edgeAttrs.IsPrintable := by
  have hkeys : ∀ key ∈ ["label", "style", "color", "fontcolor"], Id.isBare key = true := by decide
  exact c.edgeAttrs_induction Attrs.isPrintable_empty fun _ key _ hkey hvalue _ h =>
    h.set (hkeys key hkey) hvalue

theorem isInvisible_edgeAttrs (c : Connection) : c.edgeAttrs.isInvisible = false := by
  refine c.edgeAttrs_induction (P := fun attrs => attrs.isInvisible = false) rfl
    fun attrs key value _ _ hvalue h => ?_
  by_cases hkey : key = "style"
  · subst hkey
    exact Attrs.isInvisible_style.trans (beq_eq_false_iff_ne.2 hvalue)
  · rwa [Attrs.isInvisible_set_of_ne hkey]

/-- The edge of a connection says nothing else, in particular nothing about its ends. -/
theorem get?_edgeAttrs (c : Connection) {key : String}
    (h : key ∉ ["label", "style", "color", "fontcolor"]) : c.edgeAttrs.get? key = none := by
  refine c.edgeAttrs_induction (P := fun attrs => attrs.get? key = none) rfl
    fun attrs other value hother _ _ hattrs => ?_
  have hne : key ≠ other := fun heq => h (heq ▸ hother)
  rwa [Attrs.get?_set, if_neg hne]

end Connection

end InfraDiagram
