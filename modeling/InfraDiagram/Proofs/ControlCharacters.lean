import InfraDiagram.Proofs.DeclaredEnds
import InfraDiagram.Proofs.Sketches

/-!
# Control characters in identifiers

An identifier stands on one line of a program if it has no control character. Quoting leaves none
behind. A name that is a quoted identifier already stays as it is, and what a backslash escapes in
it may be any character: this is the one place where a control character gets through.

## Main definitions

- `Text.IsControlFree` — a text without control characters
- `Id.HidesControl` — a quoted identifier in which a backslash escapes a control character
- `Graph.mentioned` — all places of a program where the identifier of a node stands
- `Canvas.Named` — a canvas whose identifiers are made from the keys on it
- `Generated.StaysOnLine` — what can break the lines of a result

## Main statements

- `Id.isControlFree_ofName_iff`, `Id.isControlFree_suffixed_iff` — names and numbered identifiers
- `Canvas.named_run` — every run names nodes and clusters by their keys
- `staysOnLine_of_generate` — the identifiers of every result
- `not_isControlFree_smuggled` — a line break that gets through
-/

namespace InfraDiagram

open Dot

-- ════════════════════════════════════════════════════════════════════════
-- Texts
-- ════════════════════════════════════════════════════════════════════════

namespace Text

/-- A text without control characters, so that it stays on the line where it is printed. -/
def IsControlFree (s : String) : Prop :=
  ∀ c ∈ s.toList, isControl c = false

instance (s : String) : Decidable (IsControlFree s) :=
  decidable_of_iff (s.toList.all (fun c => !isControl c) = true) (by simp [IsControlFree])

theorem isControlFree_append_iff {s t : String} :
    IsControlFree (s ++ t) ↔ IsControlFree s ∧ IsControlFree t := by
  simp only [IsControlFree, String.toList_append, List.forall_mem_append]

/-- No character is escaped by a control character. -/
theorem isControl_of_mem_escapeChar {c d : Char} (h : d ∈ escapeChar c) : isControl d = false := by
  unfold escapeChar at h
  split_ifs at h with hbackslash hquote hline htab hcontrol
  · rw [List.eq_of_mem_replicate (n := 2) h]
    decide
  · have hd : d = '\\' ∨ d = '"' := by simpa using h
    rcases hd with rfl | rfl <;> decide
  · have hd : d = '\\' ∨ d = 'n' := by simpa using h
    rcases hd with rfl | rfl <;> decide
  · rw [List.mem_singleton.1 h]
    decide
  · exact absurd h List.not_mem_nil
  · rw [List.mem_singleton.1 h]
    exact (Bool.not_eq_true _).mp hcontrol

/-- Quotes are no control characters. -/
theorem isControlFree_iff_of_quotes {s : String} {cs : List Char}
    (hs : s.toList = '"' :: (cs ++ ['"'])) :
    IsControlFree s ↔ ∀ c ∈ cs, isControl c = false := by
  rw [IsControlFree, hs, List.forall_mem_cons, List.forall_mem_append, List.forall_mem_singleton]
  exact ⟨fun h => h.2.1, fun h => ⟨by decide, h, by decide⟩⟩

theorem isControlFree_quote (s : String) : IsControlFree (quote s) := by
  have hquotes : (quote s).toList = '"' :: (escape s.toList ++ ['"']) := by
    simp only [quote, String.toList_ofList, List.cons_append]
  rw [isControlFree_iff_of_quotes hquotes]
  intro d hd
  obtain ⟨c, -, hc⟩ := List.mem_flatMap.1 hd
  exact isControl_of_mem_escapeChar hc

end Text

-- ════════════════════════════════════════════════════════════════════════
-- Identifiers
-- ════════════════════════════════════════════════════════════════════════

namespace Dot.Id

open Text

/-- A quoted identifier with a control character right behind a backslash. The text before the
    backslash is whole, so the backslash is not escaped itself. -/
def HidesControl (raw : String) : Prop :=
  ∃ before c after, isEscaped before = true ∧ isEscaped after = true ∧ isControl c = true ∧
    raw.toList = '"' :: (before ++ '\\' :: c :: after) ++ ['"']

theorem isControlFree_of_isBare {s : String} (h : isBare s = true) : IsControlFree s := by
  rw [isBare, Bool.and_eq_true] at h
  intro c hc
  exact (plain_of_isWordChar (isWordChar_of_isWord h.1 c hc)).2.2

/-- In escaped text a control character can only stand behind a backslash that escapes it. -/
theorem exists_backslash_of_isControl {cs : List Char} (h : isEscaped cs = true) {c : Char}
    (hc : c ∈ cs) (hcontrol : isControl c = true) :
    ∃ before after, isEscaped before = true ∧ isEscaped after = true ∧
      cs = before ++ '\\' :: c :: after := by
  -- a backslash is read together with the character that it escapes
  fun_induction isEscaped cs with
  | case1 => exact absurd hc List.not_mem_nil
  | case2 => cases h
  | case3 e rest ih =>
    rcases List.mem_cons.1 hc with rfl | hc
    · exact absurd hcontrol (by decide)
    rcases List.mem_cons.1 hc with rfl | hc
    · exact ⟨[], rest, rfl, h, rfl⟩
    · obtain ⟨before, after, hbefore, hafter, rfl⟩ := ih h hc
      exact ⟨'\\' :: e :: before, after, by simpa only [isEscaped] using hbefore, hafter, rfl⟩
  | case4 e rest hend hpair ih =>
    have hne : e ≠ '\\' := ne_backslash hend hpair
    simp only [Bool.and_eq_true, Bool.not_eq_true'] at h
    rcases List.mem_cons.1 hc with rfl | hc
    · exact absurd hcontrol (by simp [h.1.2])
    · obtain ⟨before, after, hbefore, hafter, rfl⟩ := ih h.2 hc
      exact ⟨e :: before, after, by simp [isEscaped, hne, h.1.1, h.1.2, hbefore], hafter, rfl⟩

theorem HidesControl.isQuoted {raw : String} (h : HidesControl raw) : isQuoted raw = true := by
  obtain ⟨before, c, after, hbefore, hafter, -, hraw⟩ := h
  exact isQuoted_iff.2 ⟨before ++ '\\' :: c :: after, isEscaped_append hbefore hafter, hraw⟩

theorem HidesControl.not_isControlFree {raw : String} (h : HidesControl raw) :
    ¬ IsControlFree raw := by
  obtain ⟨before, c, after, -, -, hc, hraw⟩ := h
  intro hfree
  have hfalse := hfree c (by simp [hraw])
  rw [hc] at hfalse
  cases hfalse

/-- What else is quoted is free of control characters. -/
theorem isControlFree_of_isQuoted {raw : String} (hq : isQuoted raw = true)
    (h : ¬ HidesControl raw) : IsControlFree raw := by
  obtain ⟨cs, hcs, hraw⟩ := isQuoted_iff.1 hq
  rw [isControlFree_iff_of_quotes hraw]
  intro c hc
  by_contra hcontrol
  have hcontrol : isControl c = true := (Bool.not_eq_false _).mp hcontrol
  obtain ⟨before, after, hbefore, hafter, rfl⟩ := exists_backslash_of_isControl hcs hc hcontrol
  exact h ⟨before, c, after, hbefore, hafter, hcontrol, hraw⟩

theorem isControlFree_ofName_iff (raw : String) :
    IsControlFree (ofName raw) ↔ ¬ HidesControl raw := by
  constructor
  · intro hfree hhides
    have hkept : ofName raw = raw := by
      rw [ofName, hhides.isQuoted, Bool.or_true, if_pos rfl]
    exact hhides.not_isControlFree (hkept ▸ hfree)
  · intro hhides
    unfold ofName
    split_ifs with hkept
    · rcases (Bool.or_eq_true _ _).mp hkept with hbare | hquoted
      · exact isControlFree_of_isBare hbare
      · exact isControlFree_of_isQuoted hquoted hhides
    · exact isControlFree_quote raw

theorem isControlFree_number (n : Nat) : IsControlFree ("_" ++ toString n) := by
  refine isControlFree_append_iff.2 ⟨by decide, fun c hc => ?_⟩
  exact (plain_of_isAsciiDigit (isAsciiDigit_of_mem_toString hc)).2.2

/-- A number at the end of an identifier neither adds nor removes a control character. -/
theorem isControlFree_suffixed_iff (id : String) (n : Nat) :
    IsControlFree (suffixed id n) ↔ IsControlFree id := by
  have hnumber := isControlFree_number n
  by_cases hq : isQuoted id = true
  · obtain ⟨cs, hcs, hid⟩ := isQuoted_iff.1 hq
    rw [IsControlFree, String.toList_append] at hnumber
    rw [isControlFree_iff_of_quotes (toList_suffixed_of_quoted hcs hid n),
      isControlFree_iff_of_quotes hid, List.forall_mem_append]
    exact and_iff_left hnumber
  · rw [suffixed, if_neg hq, String.append_assoc, isControlFree_append_iff]
    exact and_iff_left hnumber

theorem MadeFrom.isControlFree_iff {name id : String} (h : MadeFrom name id) :
    IsControlFree id ↔ ¬ HidesControl name := by
  cases h with
  | plain => exact isControlFree_ofName_iff name
  | numbered n => rw [isControlFree_suffixed_iff, isControlFree_ofName_iff]

/-- Names of clusters begin with a letter, so none of them passes for a quoted identifier. -/
theorem not_hidesControl_cluster (key : String) : ¬ HidesControl ("cluster_" ++ key) := by
  rintro ⟨before, c, after, -, -, -, hraw⟩
  have hfirst := congrArg List.head? hraw
  simp at hfirst

end Dot.Id

-- ════════════════════════════════════════════════════════════════════════
-- Graphs
-- ════════════════════════════════════════════════════════════════════════

/-- The identifiers of nodes wherever a program has them: in declarations, at both ends of edges,
    and on the common rank. -/
def Dot.Graph.mentioned (g : Graph) : List String :=
  g.declaredIds ++ (g.edges ++ g.allOrdering).flatMap (fun e => [e.source, e.target]) ++ g.sameRank

theorem Dot.Graph.EndsDeclared.mentioned_subset {g : Graph} (h : g.EndsDeclared) :
    g.mentioned ⊆ g.declaredIds := by
  intro id hid
  rw [Graph.mentioned, List.mem_append, List.mem_append, List.mem_flatMap] at hid
  rcases hid with (hnode | ⟨e, he, hend⟩) | hrank
  · exact hnode
  · have hends : e.source ∈ g.declaredIds ∧ e.target ∈ g.declaredIds := by
      rcases List.mem_append.1 he with hvisible | hordering
      · exact h.edges e hvisible
      · exact h.ordering e hordering
    have hid : id = e.source ∨ id = e.target := by simpa using hend
    rcases hid with rfl | rfl
    · exact hends.1
    · exact hends.2
  · exact h.ranked id hrank

namespace Canvas

/-- Nodes and clusters are named by their keys. -/
structure Named (c : Canvas) : Prop where
  nodes : ∀ n ∈ c.allNodes, Id.MadeFrom n.key n.id
  clusters : ∀ id ∈ c.clusterNames, ∃ key, Id.MadeFrom ("cluster_" ++ key) id

/-- Every run names nodes and clusters by their keys. -/
theorem named_run (es : List Event) : (run es blank).Named where
  nodes := by
    rw [allNodes_eq]
    refine Gathering.nodes.forall_run_blank (fun c e n hn => ?_) es
    rw [Gathering.gained_nodes] at hn
    cases e with
    | node d =>
      rw [List.mem_singleton.1 hn]
      exact c.nodeIds.madeFrom_choose d.key
    | _ => cases hn
  clusters := by
    rw [clusterNames_eq]
    refine Gathering.names.forall_run_blank (fun c e id hid => ?_) es
    rw [Gathering.gained_names] at hid
    cases e with
    | opening key attrs =>
      rw [List.mem_singleton.1 hid]
      exact ⟨key, c.clusterIds.madeFrom_choose _⟩
    | _ => cases hid

end Canvas

-- ════════════════════════════════════════════════════════════════════════
-- Results
-- ════════════════════════════════════════════════════════════════════════

open Text

/-- What can break the lines of a result: a name for the graph or the key of a node that hides a
    control character. Clusters stay on their lines in any case. -/
structure Generated.StaysOnLine (options : RenderOptions) (g : Generated) : Prop where
  header : ∃ rest, g.dot = "digraph " ++ Id.ofName options.graphName ++ " \x7b\n" ++ rest
  name : IsControlFree (Id.ofName options.graphName) ↔ ¬ Id.HidesControl options.graphName
  nodes : ∀ id ∈ g.diagram.graph.mentioned, ∃ n ∈ g.diagram.graph.allNodes, n.id = id ∧
    (IsControlFree id ↔ ¬ Id.HidesControl n.key)
  clusters : ∀ id ∈ g.diagram.graph.clusterNames, IsControlFree id

/-- Every run keeps to the lines of its keys and its name. -/
theorem Course.staysOnLine {m : Mapping} {options : RenderOptions} {g : Generated}
    {w : Groundwork} {es : List Event} {l : Log} (h : Course m options g w es l) :
    g.StaysOnLine options := by
  obtain ⟨hdiagram, -, -⟩ := h.steps_spec
  have hnamed := Canvas.named_run (Course.steps w es)
  have hnodes := Canvas.allNodes_finish (run (Course.steps w es) .blank)
  have hclusters := Canvas.clusterNames_finish (run (Course.steps w es) .blank)
  rw [← hdiagram] at hnodes hclusters
  exact {
    header := by
      rw [h.dot, Graph.toDot]
      exact ⟨_, by rw [String.append_assoc, String.append_assoc]⟩
    name := Id.isControlFree_ofName_iff options.graphName
    nodes := by
      intro id hid
      obtain ⟨n, hn, rfl⟩ := List.mem_map.1 (h.endsDeclared.mentioned_subset hid)
      exact ⟨n, hn, rfl, (hnamed.nodes n (hnodes.mem_iff.1 hn)).isControlFree_iff⟩
    clusters := by
      intro id hid
      obtain ⟨key, hkey⟩ := hnamed.clusters id (hclusters.mem_iff.1 hid)
      exact hkey.isControlFree_iff.2 (Id.not_hidesControl_cluster key) }

/-- **Control characters get through in one place only.** The identifier for a name has no control
    character, with and without a number at its end, unless the name is a quoted identifier in
    which a backslash escapes one; such a name keeps it. So the lines of a result are broken by
    keys and names of this kind and by nothing else. -/
theorem staysOnLine_of_generate (raw : String) :
    (IsControlFree (Id.ofName raw) ↔ ¬ Id.HidesControl raw) ∧
      (∀ n, IsControlFree (Id.suffixed (Id.ofName raw) n) ↔ ¬ Id.HidesControl raw) ∧
      ∀ doc options g, generate doc options = .ok g → g.StaysOnLine options := by
  refine ⟨Id.isControlFree_ofName_iff raw, fun n => ?_, fun doc options g h => ?_⟩
  · rw [Id.isControlFree_suffixed_iff, Id.isControlFree_ofName_iff]
  · obtain ⟨m, w, es, l, -, hcourse⟩ := exists_course h
    exact hcourse.staysOnLine

/-- A quoted identifier in which a backslash escapes a line break. -/
def smuggled : String := "\"a\\\nb\""

/-- Two devices with a line break in their ids, one of them escaped, and a cluster around both. -/
def brokenLines : Mapping :=
  [("topology", .mapping [("devices", .list [
    .mapping [("id", .text smuggled), ("zone", .text "\"z\\\n\"")],
    .mapping [("id", .text "a\nb"), ("zone", .text "\"z\\\n\"")]])])]

theorem staysOnLine_brokenLines : ∃ g, generate (.mapping brokenLines) .standard = .ok g ∧
    g.diagram.graph.mentioned = [smuggled, "\"a\\nb\""] ∧
    g.diagram.graph.clusterNames = ["\"cluster_zone_\\\"z\\\\\\n\\\"\""] ∧
    (IsControlFree (Id.ofName "a\nb") ↔ ¬ Id.HidesControl "a\nb") ∧ g.StaysOnLine .standard := by
  have hresult : ((generate (.mapping brokenLines) .standard).toOption.map fun g =>
      (g.diagram.graph.mentioned, g.diagram.graph.clusterNames)) =
      some ([smuggled, "\"a\\nb\""], ["\"cluster_zone_\\\"z\\\\\\n\\\"\""]) := by
    decide +kernel
  obtain ⟨g, hg, hshown⟩ := exists_of_toOption_map hresult
  simp only [Prod.mk.injEq] at hshown
  obtain ⟨hname, -, hstays⟩ := staysOnLine_of_generate "a\nb"
  exact ⟨g, hg, hshown.1, hshown.2, hname, hstays _ _ g hg⟩

/-- The line break gets into the identifier, numbered or not. -/
theorem not_isControlFree_smuggled : ¬ IsControlFree (Id.ofName smuggled) ∧
    ¬ IsControlFree (Id.suffixed (Id.ofName smuggled) 2) := by
  decide +kernel

end InfraDiagram
