import InfraDiagram.Proofs.Bookkeeping
import InfraDiagram.Proofs.Documents
import InfraDiagram.Proofs.Unescaping

/-!
# What labels show

A node without a label of its own is labelled by the lines of its declaration, or by its source id
if all of them are blank. A line of control characters is not blank, and yet nothing of it is shown:
such a line can keep the source id away from a node and hide the label in the node map.

## Main definitions

- `Text.IsVisible` — a text with a character that can be seen
- `Dot.Node.shownLabel?` — the label of a node as a reader of the diagram sees it
- `Declaration.ShowsLine`, `Declaration.LeadsWithShown` — declarations with something to show
- `Displays` — what the graph and the node map show of a declaration

## Main statements

- `Text.isVisible_shownLines_iff` — lines show what one of them shows
- `displays_of_run` — what is shown of a declared node, after any steps
- `not_isVisible_unseen` — a device with an id of which nothing is shown
-/

namespace InfraDiagram

open Dot Text

-- ════════════════════════════════════════════════════════════════════════
-- Characters that can be seen
-- ════════════════════════════════════════════════════════════════════════

namespace Text

/-- A text with a character that is neither white space nor a control character. -/
def IsVisible (cs : List Char) : Prop :=
  ∃ c ∈ cs, isSpace c = false ∧ isControl c = false

instance (cs : List Char) : Decidable (IsVisible cs) :=
  decidable_of_iff (cs.any fun c => !isSpace c && !isControl c) (by simp [IsVisible])

theorem isVisible_append_iff {cs ds : List Char} :
    IsVisible (cs ++ ds) ↔ IsVisible cs ∨ IsVisible ds := by
  simp only [IsVisible, List.mem_append, or_and_right, exists_or]

/-- What can be seen is shown as it is, and nothing else turns into it. -/
theorem shownChar_eq_some_iff {c d : Char} (hd : isSpace d = false ∧ isControl d = false) :
    shownChar c = some d ↔ c = d := by
  constructor
  · intro h
    unfold shownChar at h
    split_ifs at h with hline htab
    · obtain rfl := Option.some.inj h
      exact absurd hd (by decide)
    · obtain rfl := Option.some.inj h
      exact absurd hd (by decide)
    · exact Option.some.inj h
  · rintro rfl
    have hline : c ≠ '\n' := by
      rintro rfl
      exact absurd hd (by decide)
    have htab : c ≠ '\t' := by
      rintro rfl
      exact absurd hd (by decide)
    simp [shownChar, hline, htab, hd.2]

theorem isVisible_shown_iff {cs : List Char} : IsVisible (shown cs) ↔ IsVisible cs := by
  constructor
  · rintro ⟨d, hd, hseen⟩
    obtain ⟨c, hc, hshown⟩ := List.mem_filterMap.1 hd
    obtain rfl := (shownChar_eq_some_iff hseen).1 hshown
    exact ⟨c, hc, hseen⟩
  · rintro ⟨c, hc, hseen⟩
    exact ⟨c, List.mem_filterMap.2 ⟨c, hc, (shownChar_eq_some_iff hseen).2 rfl⟩, hseen⟩

/-- A blank text has nothing that can be seen. -/
theorem not_isVisible_of_isBlank {s : String} (h : isBlank s = true) : ¬ IsVisible s.toList := by
  rintro ⟨c, hc, hspace, -⟩
  rw [isBlank, List.all_eq_true] at h
  rw [h c hc] at hspace
  cases hspace

theorem isVisible_intercalate_iff {parts : List (List Char)} :
    IsVisible (['\n'].intercalate parts) ↔ ∃ cs ∈ parts, IsVisible cs := by
  induction parts with
  | nil => simp [IsVisible, List.intercalate]
  | cons cs rest ih =>
    cases rest with
    | nil => simp [List.intercalate]
    | cons ds rest =>
      have hbreak : ¬ IsVisible ['\n'] := by decide
      simp only [List.intercalate_cons_cons, isVisible_append_iff, ih, List.exists_mem_cons_iff,
        hbreak, or_false]

/-- Lines show what one of them shows, blank or not. -/
theorem isVisible_shownLines_iff {lines : List String} :
    IsVisible (shownLines lines) ↔ ∃ line ∈ lines, IsVisible line.toList := by
  rw [shownLines, isVisible_intercalate_iff]
  constructor
  · rintro ⟨cs, hcs, hseen⟩
    obtain ⟨line, hline, rfl⟩ := List.mem_map.1 hcs
    exact ⟨line, (List.mem_filter.1 hline).1, isVisible_shown_iff.1 hseen⟩
  · rintro ⟨line, hline, hseen⟩
    have hblank : isBlank line = false :=
      (Bool.not_eq_true _).mp fun h => not_isVisible_of_isBlank h hseen
    refine ⟨_, List.mem_map_of_mem (List.mem_filter.2 ⟨hline, ?_⟩), isVisible_shown_iff.2 hseen⟩
    simp [hblank]

end Text

-- ════════════════════════════════════════════════════════════════════════
-- Labels of nodes
-- ════════════════════════════════════════════════════════════════════════

/-- The label of a node as a reader of the diagram sees it: without its quotes, and with what was
    escaped. -/
def Dot.Node.shownLabel? (n : Node) : Option (List Char) :=
  (n.attrs.get? "label").bind fun value => (Id.inner? value.toList).bind unescape?

/-- The label of a declaration without a label of its own. -/
theorem Canvas.shownLabel?_node {call : Call} (h : call.1.attrs.get? "label" = none) :
    (Call.node call).shownLabel? = some (shownLines (labelLines call.1)) := by
  have hvalue : (Call.node call).attrs.get? "label" =
      some ("\"" ++ escapeLines (labelLines call.1) ++ "\"") :=
    (Attrs.get?_merge_of_eq_none h).trans (by rw [Attrs.lines, Attrs.get?_set, if_pos rfl])
  have hinner : Id.inner? ("\"" ++ escapeLines (labelLines call.1) ++ "\"").toList =
      some (escapeLines (labelLines call.1)).toList := Id.inner?_eq_some_iff.2 (by simp)
  rw [Node.shownLabel?, hvalue, Option.bind_some, hinner, Option.bind_some,
    unescape?_escapeLines]

namespace Declaration

/-- A line of the label shows something, or all lines are blank. -/
def ShowsLine (d : Declaration) : Prop :=
  (∃ line ∈ d.label, IsVisible line.toList) ∨ ∀ line ∈ d.label, isBlank line = true

/-- The first line of the label that is not blank shows something, if there is one. -/
def LeadsWithShown (d : Declaration) : Prop :=
  ∀ line, d.label.find? (fun line => !isBlank line) = some line → IsVisible line.toList

variable {d : Declaration}

/-- With something in the source id, the lines of the label or the source id show something unless
    nothing is shown of lines that are not blank. -/
theorem exists_isVisible_labelLines_iff (h : IsVisible d.sourceId.toList) :
    (∃ line ∈ Canvas.labelLines d, IsVisible line.toList) ↔ d.ShowsLine := by
  by_cases hany : (d.label.any fun line => !isBlank line) = true
  · rw [Canvas.labelLines, if_pos hany, ShowsLine, or_iff_left]
    obtain ⟨line, hline, hblank⟩ := List.any_eq_true.1 hany
    intro hall
    simp [hall line hline] at hblank
  · rw [Canvas.labelLines, if_neg hany]
    refine iff_of_true ⟨_, List.mem_singleton_self _, h⟩ (.inr fun line hline => ?_)
    by_contra hblank
    exact hany (List.any_eq_true.2 ⟨line, hline, by simpa using hblank⟩)

theorem isVisible_displayLabel_iff (h : IsVisible d.sourceId.toList) :
    IsVisible (Canvas.displayLabel (Canvas.labelLines d)).toList ↔ d.LeadsWithShown := by
  unfold LeadsWithShown
  cases hfind : d.label.find? fun line => !isBlank line with
  | none =>
    have hany : ¬ (d.label.any fun line => !isBlank line) = true := by
      simpa using List.find?_eq_none.1 hfind
    have hsource : isBlank d.sourceId = false :=
      (Bool.not_eq_true _).mp fun hblank => not_isVisible_of_isBlank hblank h
    rw [Canvas.labelLines, if_neg hany]
    simp [Canvas.displayLabel, hsource, h]
  | some line =>
    have hline := List.find?_some hfind
    have hany : (d.label.any fun line => !isBlank line) = true :=
      List.any_eq_true.2 ⟨line, List.mem_of_find?_eq_some hfind, hline⟩
    rw [Canvas.labelLines, if_pos hany, Canvas.displayLabel, hfind]
    simp

end Declaration

-- ════════════════════════════════════════════════════════════════════════
-- Nodes of a run
-- ════════════════════════════════════════════════════════════════════════

/-- What is shown of a declaration: by its one node, and by the one entry that the node map has for
    the node. -/
structure Displays (c : Canvas) (call : Call) : Prop where
  graph : ∃ n label, c.allNodes.filter (fun n => n.id = call.2) = [n] ∧
    n.shownLabel? = some label ∧ (IsVisible label ↔ call.1.ShowsLine)
  nodeMap : ∃ ref, c.nodeMap.refsOf call.2 = [ref] ∧
    (IsVisible ref.label.toList ↔ call.1.LeadsWithShown)

/-- **What labels show.** Let a node be declared, in whatever state, without a label of its own and
    with a source id of which something can be seen. From then on its label in the graph shows
    something exactly if a line of the declaration does or all of them are blank, and its label in
    the node map exactly if the first line that is not blank does or there is none. -/
theorem displays_of_run (es : List Event) {call : Call} (hcall : call ∈ (logOf es .blank).calls)
    (hlabel : call.1.attrs.get? "label" = none) (hsource : IsVisible call.1.sourceId.toList) :
    Displays (run es .blank) call where
  graph := by
    refine ⟨Call.node call, shownLines (Canvas.labelLines call.1), nodes_run es hcall,
      Canvas.shownLabel?_node hlabel, ?_⟩
    rw [isVisible_shownLines_iff]
    exact Declaration.exists_isVisible_labelLines_iff hsource
  nodeMap := ⟨_, (Canvas.accounts_run es).refsOf hcall,
    Declaration.isVisible_displayLabel_iff hsource⟩

/-- A port whose label begins with a bell, and one whose label is blank. -/
def ringingPorts : List Event :=
  [.node ⟨"s:a", .port, "s:a", ["\x07", "eth0"], .empty⟩,
    .node ⟨"s:b", .port, "s:b", [" "], .empty⟩]

theorem displays_ringingPorts :
    (∃ call ∈ (logOf ringingPorts .blank).calls, call.1.key = "s:a" ∧ call.1.ShowsLine ∧
      ¬ call.1.LeadsWithShown ∧ Displays (run ringingPorts .blank) call) ∧
    ∃ call ∈ (logOf ringingPorts .blank).calls, call.1.key = "s:b" ∧ call.1.LeadsWithShown ∧
      Displays (run ringingPorts .blank) call := by
  have hcalls : (logOf ringingPorts .blank).calls =
      [(⟨"s:a", .port, "s:a", ["\x07", "eth0"], .empty⟩, "\"s:a\""),
        (⟨"s:b", .port, "s:b", [" "], .empty⟩, "\"s:b\"")] := by decide +kernel
  have hfirst : (⟨"s:a", .port, "s:a", ["\x07", "eth0"], .empty⟩, "\"s:a\"") ∈
      (logOf ringingPorts .blank).calls := by
    rw [hcalls]
    exact List.mem_cons_self
  have hsecond : (⟨"s:b", .port, "s:b", [" "], .empty⟩, "\"s:b\"") ∈
      (logOf ringingPorts .blank).calls := by
    rw [hcalls]
    exact List.mem_cons_of_mem _ List.mem_cons_self
  refine ⟨⟨_, hfirst, rfl, .inl ⟨"eth0", by decide, by decide⟩, fun hleads => ?_,
    displays_of_run ringingPorts hfirst rfl (by decide)⟩, ⟨_, hsecond, rfl, ?_,
    displays_of_run ringingPorts hsecond rfl (by decide)⟩⟩
  · exact absurd (hleads "\x07" (by decide)) (by decide)
  · intro line hline
    simp [isBlank, isSpace] at hline

/-- A device with a visible id whose label is a control character. -/
def unseen : Mapping :=
  [("topology", .mapping [("devices", .list [
    .mapping [("id", .text "a"), ("label", .text "\x01")]])])]

/-- Nothing is shown of the device, by its node or in the node map. -/
theorem not_isVisible_unseen : IsVisible "a".toList ∧
    ∃ g, generate (.mapping unseen) .standard = .ok g ∧
      (g.diagram.graph.allNodes.map fun n => (n.key, n.shownLabel?)) = [("a", some [])] ∧
      (g.nodeMap.refsOf "a").map NodeRef.label = ["\x01"] ∧
      ¬ IsVisible [] ∧ ¬ IsVisible "\x01".toList := by
  have hresult : ((generate (.mapping unseen) .standard).toOption.map fun g =>
      (g.diagram.graph.allNodes.map fun n => (n.key, n.shownLabel?),
        (g.nodeMap.refsOf "a").map NodeRef.label)) = some ([("a", some [])], ["\x01"]) := by
    decide +kernel
  obtain ⟨g, hg, hshown⟩ := exists_of_toOption_map hresult
  simp only [Prod.mk.injEq] at hshown
  exact ⟨by decide, g, hg, hshown.1, hshown.2, by decide, by decide⟩

end InfraDiagram
