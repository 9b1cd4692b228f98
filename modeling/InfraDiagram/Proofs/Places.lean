import InfraDiagram.Proofs.Scripts
import Mathlib.Data.List.Basic
import Mathlib.Data.String.Basic

/-!
# Places of files

Where paths lead in a workspace, and what it means to write to them. The artifacts of a batch are
named by the stems of their inputs alone, so two artifacts have one place exactly if they are of one
sort and their inputs have one stem.

## Main definitions

- `Workspace.Takes` — a file can be written at a path

## Main statements

- `Workspace.read?_write?` — what files hold after one of them is written
- `Workspace.read?_of_makeDirectory?` — a new directory hides no file
- `notMem_stemOf` — a stem has no separator in it
- `Artifact.eq_of_place` — artifacts in one place are of one sort, for one stem
-/

namespace InfraDiagram.CommandLine

open Dot

-- ════════════════════════════════════════════════════════════════════════
-- Components of paths
-- ════════════════════════════════════════════════════════════════════════

theorem forall_of_mem_splitOnP {α : Type} {p : α → Bool} {xs part : List α}
    (h : part ∈ xs.splitOnP p) : ∀ x ∈ part, p x = false := by
  induction xs generalizing part with
  | nil =>
    rw [List.splitOnP_nil, List.mem_singleton] at h
    simp [h]
  | cons x xs ih =>
    rw [List.splitOnP_cons_eq_if_modifyHead] at h
    split_ifs at h with hx
    · rcases List.mem_cons.1 h with rfl | h
      · simp
      · exact ih h
    · obtain ⟨first, rest, hsplit⟩ := List.exists_cons_of_ne_nil (List.splitOnP_ne_nil p xs)
      rw [hsplit, List.modifyHead_cons] at h
      rcases List.mem_cons.1 h with rfl | h
      · intro y hy
        rcases List.mem_cons.1 hy with rfl | hy
        · exact Bool.eq_false_iff.2 hx
        · exact ih (hsplit ▸ List.mem_cons_self) y hy
      · exact ih (hsplit ▸ List.mem_cons_of_mem _ h)

/-- A component of a path has no separator in it. -/
theorem notMem_of_mem_splitToList {path part : String}
    (h : part ∈ path.splitToList (· = '/')) : '/' ∉ part.toList := by
  rw [String.splitToList_of_valid] at h
  obtain ⟨cs, hcs, rfl⟩ := List.mem_map.1 h
  intro hmem
  rw [String.toList_ofList] at hmem
  simpa using forall_of_mem_splitOnP hcs '/' hmem

/-- The components of a name within a directory. -/
theorem splitToList_join (directory : String) {name : String} (h : '/' ∉ name.toList) :
    (directory ++ "/" ++ name).splitToList (· = '/') =
      directory.splitToList (· = '/') ++ [name] := by
  have hname : name.toList.splitOnP (fun c => decide (c = '/')) = [name.toList] :=
    List.splitOnP_eq_singleton fun c hc => by
      rw [decide_eq_false_iff_not]
      exact fun heq => h (heq ▸ hc)
  have hchars : (directory ++ "/" ++ name).toList = directory.toList ++ '/' :: name.toList := by
    simp
  rw [String.splitToList_of_valid, String.splitToList_of_valid, hchars,
    List.splitOnP_append_cons _ _ (by simp), hname, List.map_append]
  simp

/-- A stem is part of a component. -/
theorem notMem_fileStem {name : String} (h : '/' ∉ name.toList) : '/' ∉ (fileStem name).toList := by
  rw [fileStem, String.toList_ofList, splitName]
  have hreverse : '/' ∉ name.toList.reverse := by rwa [List.mem_reverse]
  split
  · rename_i c₀ c rest hdrop
    intro hmem
    have hrest : '/' ∈ c₀ :: c :: rest := List.mem_cons_of_mem _ (List.mem_reverse.1 hmem)
    rw [← hdrop] at hrest
    exact hreverse (List.mem_of_mem_drop hrest)
  · exact h

theorem notMem_stemOf (input : String) : '/' ∉ (stemOf input).toList := by
  unfold stemOf
  cases hname : fileName? input with
  | none => decide
  | some name =>
    have hcomponent : name ∈ pathComponents input :=
      List.mem_of_getLast? (Option.filter_eq_some_iff.1 hname).1
    exact notMem_fileStem (notMem_of_mem_splitToList (List.mem_filter.1 hcomponent).1)

namespace Workspace

variable {w w' : Workspace}

-- ════════════════════════════════════════════════════════════════════════
-- Where paths lead
-- ════════════════════════════════════════════════════════════════════════

/-- Only directories decide where a path leads. -/
theorem filePlace?_congr (h : w'.directories = w.directories) (path : String) :
    w'.filePlace? path = w.filePlace? path := by
  have hwalk : ∀ (names : List String) (l : Location), w'.walk? l names = w.walk? l names := by
    intro names
    induction names with
    | nil => exact fun l => rfl
    | cons name rest ih =>
      intro l
      have hdirectory : w'.isDirectory l = w.isDirectory l := by
        rw [isDirectory, isDirectory, h]
      rw [walk?, walk?, hdirectory]
      simp only [ih]
  simp only [filePlace?, hwalk]

/-- A walk ends with the last of its names, if that is no step upwards. -/
theorem getLast?_walk? {name : String} (hname : name ≠ "..") {names : List String}
    {l place : Location} (h : w.walk? l (names ++ [name]) = some place) :
    place.getLast? = some name := by
  induction names generalizing l with
  | nil =>
    simp only [List.nil_append, walk?, step?, hname, if_false, Option.bind_some] at h
    split_ifs at h
    cases h
    exact List.getLast?_concat
  | cons first names ih =>
    rw [List.cons_append, walk?] at h
    split_ifs at h
    obtain ⟨next, -, hnext⟩ := Option.bind_eq_some_iff.1 h
    exact ih hnext

/-- A name within a directory leads to a place with this name. -/
theorem getLast?_filePlace? {directory name : String} (hname : '/' ∉ name.toList)
    (hplain : name ∉ ["", ".", ".."]) {place : Location}
    (h : w.filePlace? (directory ++ "/" ++ name) = some place) : place.getLast? = some name := by
  simp only [List.mem_cons, List.not_mem_nil, or_false, not_or] at hplain
  obtain ⟨hempty, hdot, hup⟩ := hplain
  unfold filePlace? at h
  obtain ⟨⟨names, directory?⟩, hnames, hwalk⟩ := Option.bind_eq_some_iff.1 h
  dsimp only at hwalk
  split_ifs at hwalk
  unfold names? at hnames
  dsimp only at hnames
  split_ifs at hnames
  rw [splitToList_join directory hname, List.filter_append] at hnames
  simp only [Option.some.injEq, Prod.mk.injEq] at hnames
  have hlast : [name].filter (fun p => p != "" && p != ".") = [name] := by
    simp [hempty, hdot]
  rw [hlast] at hnames
  rw [← hnames.1] at hwalk
  exact getLast?_walk? hup hwalk

-- ════════════════════════════════════════════════════════════════════════
-- What files hold
-- ════════════════════════════════════════════════════════════════════════

theorem lookup_setFile (l k : Location) (text : String) (files : List (Location × String)) :
    (setFile l text files).lookup k = if k = l then some text else files.lookup k := by
  induction files with
  | nil =>
    rw [setFile, List.lookup_cons]
    by_cases hk : k = l
    · simp [hk]
    · rw [beq_false_of_ne hk, if_neg hk]
  | cons file files ih =>
    obtain ⟨place, old⟩ := file
    rw [setFile]
    by_cases hplace : place = l
    · subst hplace
      rw [if_pos rfl, List.lookup_cons, List.lookup_cons]
      by_cases hk : k = place
      · simp [hk]
      · rw [beq_false_of_ne hk, if_neg hk]
    · rw [if_neg hplace, List.lookup_cons, List.lookup_cons, ih]
      by_cases hk : k = place
      · subst hk
        simp [hplace]
      · rw [beq_false_of_ne hk]

/-- A write sets one file, in the place where the path leads. -/
theorem exists_place_of_write? {path text : String} (h : w.write? path text = some w') :
    ∃ place, w.filePlace? path = some place ∧
      w' = { w with files := setFile place text w.files } := by
  obtain ⟨place, hplace, hset⟩ := Option.bind_eq_some_iff.1 h
  split_ifs at hset
  exact ⟨place, hplace, (Option.some.inj hset).symm⟩

/-- A write makes no directories. What was written is read back at every path that leads to the same
    place, and all other files hold what they held. -/
theorem read?_write? {path text : String} (h : w.write? path text = some w') :
    w'.directories = w.directories ∧ ∀ other, w'.read? other =
      if w.filePlace? other = w.filePlace? path then some text else w.read? other := by
  obtain ⟨place, hplace, hw'⟩ := exists_place_of_write? h
  have hdirectories : w'.directories = w.directories := by rw [hw']
  have hfiles : w'.files = setFile place text w.files := by rw [hw']
  refine ⟨hdirectories, fun other => ?_⟩
  rw [read?, read?, filePlace?_congr hdirectories, hfiles, hplace]
  cases w.filePlace? other with
  | none => simp
  | some k =>
    rw [Option.bind_some, lookup_setFile]
    simp

/-- Whether a file can be written depends on directories alone. -/
theorem isSome_write?_congr (h : w'.directories = w.directories) (path text text' : String) :
    (w'.write? path text').isSome = (w.write? path text).isSome := by
  have hdirectory : ∀ l, w'.isDirectory l = w.isDirectory l := fun l => by
    rw [isDirectory, isDirectory, h]
  rw [write?, write?, filePlace?_congr h]
  cases w.filePlace? path with
  | none => rfl
  | some l =>
    simp only [Option.bind_eq_bind, Option.bind_some, hdirectory]
    split_ifs <;> rfl

/-- A file can be written at a path, whatever its text. -/
def Takes (w : Workspace) (path : String) : Prop :=
  ∀ text, (w.write? path text).isSome

instance (w : Workspace) (path : String) : Decidable (w.Takes path) :=
  decidable_of_iff ((w.write? path "").isSome = true)
    ⟨fun h text => (isSome_write?_congr rfl path "" text).trans h, fun h => h ""⟩

theorem Takes.congr {path : String} (h : w.Takes path)
    (hdirectories : w'.directories = w.directories) : w'.Takes path :=
  fun text => (isSome_write?_congr hdirectories path text text).trans (h text)

-- ════════════════════════════════════════════════════════════════════════
-- New directories
-- ════════════════════════════════════════════════════════════════════════

theorem makeAlong_grows {names : List String} {l : Location} (h : w.makeAlong l names = some w') :
    w'.files = w.files ∧ w.directories ⊆ w'.directories := by
  induction names generalizing w l with
  | nil =>
    cases h
    exact ⟨rfl, List.Subset.refl _⟩
  | cons name rest ih =>
    rw [makeAlong] at h
    split at h
    · cases h
    · split_ifs at h
      · exact ih h
      · obtain ⟨hfiles, hdirectories⟩ := ih h
        exact ⟨hfiles, fun l' hl' => hdirectories (List.mem_append_left _ hl')⟩

theorem makeDirectory?_grows {path : String} (h : w.makeDirectory? path = some w') :
    w'.files = w.files ∧ w.directories ⊆ w'.directories := by
  obtain ⟨⟨names, directory⟩, -, hmade⟩ := Option.bind_eq_some_iff.1 h
  dsimp only at hmade
  split_ifs at hmade with hdot
  · obtain ⟨l, -, hl⟩ := Option.bind_eq_some_iff.1 hmade
    split_ifs at hl
    cases hl
    exact ⟨rfl, List.Subset.refl _⟩
  · exact makeAlong_grows hmade

/-- A walk that gets to its end gets there with more directories as well. -/
theorem walk?_mono (h : w.directories ⊆ w'.directories) {names : List String} {l place : Location}
    (hwalk : w.walk? l names = some place) : w'.walk? l names = some place := by
  induction names generalizing l with
  | nil => exact hwalk
  | cons name rest ih =>
    rw [walk?] at hwalk ⊢
    split_ifs at hwalk with hdirectory
    have hdirectory' : w'.isDirectory l = true := by
      simp only [isDirectory, Bool.or_eq_true, List.contains_iff_mem] at hdirectory ⊢
      exact hdirectory.imp_right fun hl => h hl
    obtain ⟨next, hnext, hrest⟩ := Option.bind_eq_some_iff.1 hwalk
    rw [if_pos hdirectory', hnext, Option.bind_some, ih hrest]

/-- A file that can be read can be read when a directory is made. -/
theorem read?_of_makeDirectory? {directory path text : String}
    (h : w.makeDirectory? directory = some w') (hread : w.read? path = some text) :
    w'.read? path = some text := by
  obtain ⟨hfiles, hdirectories⟩ := makeDirectory?_grows h
  obtain ⟨place, hplace, htext⟩ := Option.bind_eq_some_iff.1 hread
  obtain ⟨⟨names, directory?⟩, hnames, hwalk⟩ := Option.bind_eq_some_iff.1 hplace
  have hplace' : w'.filePlace? path = some place := by
    refine Option.bind_eq_some_iff.2 ⟨_, hnames, ?_⟩
    dsimp only at hwalk ⊢
    split_ifs at hwalk with hfile
    rw [if_neg hfile]
    exact walk?_mono hdirectories hwalk
  rw [read?, hplace', Option.bind_some, hfiles, htext]

end Workspace

-- ════════════════════════════════════════════════════════════════════════
-- Artifacts
-- ════════════════════════════════════════════════════════════════════════

/-- What a batch writes for each of its documents. -/
def artifacts : List Artifact :=
  [.program, .report]

namespace Artifact

variable {a b : Artifact}

theorem path_eq (a : Artifact) (outDir input : String) :
    a.path outDir input = outDir ++ "/" ++ (stemOf input ++ a.suffix) := by
  rw [path, String.append_assoc]

theorem notMem_name (ha : a ∈ artifacts) (input : String) :
    '/' ∉ (stemOf input ++ a.suffix).toList := by
  have hsuffix : '/' ∉ a.suffix.toList := by
    simp only [artifacts, List.mem_cons, List.not_mem_nil, or_false] at ha
    rcases ha with rfl | rfl <;> decide
  rw [String.toList_append, List.mem_append, not_or]
  exact ⟨notMem_stemOf input, hsuffix⟩

/-- The name of an artifact is the name of a file. -/
theorem isPlain_name (ha : a ∈ artifacts) (input : String) :
    stemOf input ++ a.suffix ∉ ["", ".", ".."] := by
  have hlength : 4 ≤ (stemOf input ++ a.suffix).length := by
    have hsuffix : 4 ≤ a.suffix.length := by
      simp only [artifacts, List.mem_cons, List.not_mem_nil, or_false] at ha
      rcases ha with rfl | rfl <;> decide
    rw [String.length_append]
    omega
  intro hmem
  have hshort : ∀ s ∈ ["", ".", ".."], s.length < 4 := by decide
  have hlt := hshort _ hmem
  omega

/-- The name of an artifact tells its sort and the stem. -/
theorem eq_of_name_eq (ha : a ∈ artifacts) (hb : b ∈ artifacts) {stem stem' : String}
    (h : stem ++ a.suffix = stem' ++ b.suffix) : a = b ∧ stem = stem' := by
  have hlast : (stem ++ a.suffix).toList.getLast? = (stem' ++ b.suffix).toList.getLast? := by
    rw [h]
  have hab : a = b := by
    simp only [artifacts, List.mem_cons, List.not_mem_nil, or_false] at ha hb
    -- the two sorts of names end in different letters
    rcases ha with rfl | rfl <;> rcases hb with rfl | rfl
    · rfl
    · simp [program, report, List.getLast?_append] at hlast
    · simp [program, report, List.getLast?_append] at hlast
    · rfl
  subst hab
  exact ⟨rfl, (String.append_left_inj _).1 h⟩

/-- Artifacts in one place are of one sort, and their inputs have one stem. -/
theorem eq_of_place {w : Workspace} {outDir : String} (ha : a ∈ artifacts) (hb : b ∈ artifacts)
    {input other : String} {place : Location}
    (h : w.filePlace? (a.path outDir input) = some place)
    (h' : w.filePlace? (b.path outDir other) = some place) :
    a = b ∧ stemOf input = stemOf other := by
  rw [path_eq] at h h'
  have hname := Workspace.getLast?_filePlace? (notMem_name ha input) (isPlain_name ha input) h
  have hname' := Workspace.getLast?_filePlace? (notMem_name hb other) (isPlain_name hb other) h'
  rw [hname, Option.some.injEq] at hname'
  exact eq_of_name_eq ha hb hname'

end Artifact

end InfraDiagram.CommandLine
