import InfraDiagram.Proofs.Batches
import Mathlib.Data.List.Nodup

/-!
# What a batch leaves behind

Each document of a batch writes its artifacts under the stem of its input. Whatever the order of
turns, the file of a stem holds what one of the inputs with this stem comes to, so a batch keeps all
of its artifacts exactly if inputs with one stem come to the same.

## Main definitions

- `Job` — what a batch is to do, and the workspace that it finds
- `Job.Stage` — how far a document is
- `Job.Invariant` — what holds whatever the turns were
- `Job.Leaves`, `Job.KeepsAll`, `Job.Agrees` — what a batch leaves, and when nothing is lost

## Main statements

- `Job.Stage.step`, `Job.Invariant.step`, `Job.Invariant.run` — turns preserve the invariant
- `keepsAll_iff_of_batch` — what a batch leaves that ends without an error
- `not_keepsAll_namesakes` — a batch that loses a document
-/

namespace InfraDiagram.CommandLine

open Dot

/-- The text of an input describes a diagram. -/
def Renders (w : Workspace) (options : RenderOptions) (input : String) (g : Generated) : Prop :=
  ∃ text doc, w.read? input = some text ∧ decode text (Format.ofPath input) = .ok doc ∧
    generate doc options = .ok g

theorem renders_of_drawn {w : Workspace} {options : RenderOptions} {input : String}
    {g : Generated} (h : drawn options input (w.read? input) = .ok g) :
    Renders w options input g := by
  unfold drawn at h
  split at h
  · cases h
  · rename_i text htext
    split at h
    · cases h
    · rename_i doc hdoc
      cases hg : generate doc options with
      | error e =>
        rw [hg] at h
        cases h
      | ok g' =>
        rw [hg] at h
        cases h
        exact ⟨text, doc, htext, hdoc, hg⟩

theorem Renders.unique {w : Workspace} {options : RenderOptions} {input : String}
    {g g' : Generated} (h : Renders w options input g) (h' : Renders w options input g') :
    g = g' := by
  obtain ⟨text, doc, htext, hdoc, hg⟩ := h
  obtain ⟨text', doc', htext', hdoc', hg'⟩ := h'
  rw [htext, Option.some.injEq] at htext'
  subst htext'
  rw [hdoc, Except.ok.injEq] at hdoc'
  subst hdoc'
  rw [hg, Except.ok.injEq] at hg'
  exact hg'

/-- What a batch is to do, and the workspace that it finds. -/
structure Job where
  outDir : String
  options : RenderOptions
  inputs : List String
  before : Workspace

namespace Job

variable {j : Job}

/-- An input of the batch describes a diagram. -/
def Yields (j : Job) (input : String) (g : Generated) : Prop :=
  input ∈ j.inputs ∧ Renders j.before j.options input g

/-- No artifact has the place of an input. -/
def KeepsApart (j : Job) : Prop :=
  ∀ input ∈ j.inputs, ∀ other ∈ j.inputs, ∀ a ∈ artifacts,
    j.before.filePlace? input = j.before.filePlace? (a.path j.outDir other) →
    j.before.filePlace? input = none

instance : Decidable j.KeepsApart :=
  inferInstanceAs (Decidable (∀ input ∈ j.inputs, ∀ other ∈ j.inputs, ∀ a ∈ artifacts,
    j.before.filePlace? input = j.before.filePlace? (a.path j.outDir other) →
    j.before.filePlace? input = none))

/-- The file for an artifact of an input holds the artifact of an input with the same stem. -/
def IsWritten (j : Job) (w : Workspace) (a : Artifact) (input : String) : Prop :=
  ∃ other g, j.Yields other g ∧ stemOf other = stemOf input ∧
    w.read? (a.path j.outDir input) = some (a.text g)

/-- How far a document is: what is left of its script, and what it has written. -/
inductive Stage (j : Job) (w : Workspace) (input : String) :
    Script (Except Failure Nat) → Prop where
  | unread : Stage j w input (renderInto Script.host j.outDir j.options input).run
  | read {g : Generated} (h : j.Yields input g) :
      Stage j w input (writeArtifacts Script.host j.outDir input g)
  | halfway {g : Generated} (h : j.Yields input g) (hprogram : j.IsWritten w .program input) :
      Stage j w input (writeReport Script.host j.outDir input g)
  | written {g : Generated} {n : Nat} (h : j.Yields input g)
      (hwritten : ∀ a ∈ artifacts, j.IsWritten w a input) : Stage j w input (.done (.ok n))
  | failed {e : Failure} : Stage j w input (.done (.error e))

/-- What may come of a turn: the workspace stays as it is, or an artifact is written. -/
def Writes (j : Job) (w w' : Workspace) (input : String) : Prop :=
  w' = w ∨ ∃ a ∈ artifacts, ∃ g, j.Yields input g ∧
    w.write? (a.path j.outDir input) (a.text g) = some w'

/-- An artifact that is written stays, or another one of the same sort and stem takes its place. -/
theorem IsWritten.writes {w w' : Workspace} {a : Artifact} {input other : String}
    (h : j.IsWritten w a input) (ha : a ∈ artifacts) (hwrites : j.Writes w w' other) :
    j.IsWritten w' a input := by
  rcases hwrites with rfl | ⟨b, hb, g, hg, hwrite⟩
  · exact h
  obtain ⟨owner, g', hg', hstem, hread⟩ := h
  have hread' := (Workspace.read?_write? hwrite).2 (a.path j.outDir input)
  by_cases hplace : w.filePlace? (a.path j.outDir input) = w.filePlace? (b.path j.outDir other)
  · rw [if_pos hplace] at hread'
    obtain ⟨place, ha', -⟩ := Option.bind_eq_some_iff.1 hread
    obtain ⟨rfl, hsame⟩ := Artifact.eq_of_place ha hb ha' (hplace ▸ ha')
    exact ⟨other, g, hg, hsame.symm, hread'⟩
  · rw [if_neg hplace, hread] at hread'
    exact ⟨owner, g', hg', hstem, hread'⟩

/-- An artifact that was just written is there. -/
theorem isWritten_of_write? {w w' : Workspace} {a : Artifact} {input : String} {g : Generated}
    (hg : j.Yields input g) (h : w.write? (a.path j.outDir input) (a.text g) = some w') :
    j.IsWritten w' a input := by
  refine ⟨input, g, hg, rfl, ?_⟩
  rw [(Workspace.read?_write? h).2, if_pos rfl]

/-- Stages stay what they are while other documents have their turns. -/
theorem Stage.writes {w w' : Workspace} {input other : String}
    {script : Script (Except Failure Nat)} (h : j.Stage w input script)
    (hwrites : j.Writes w w' other) : j.Stage w' input script := by
  cases h with
  | unread => exact .unread
  | read h => exact .read h
  | halfway h hprogram => exact .halfway h (hprogram.writes (by simp [artifacts]) hwrites)
  | written h hwritten => exact .written h fun a ha => (hwritten a ha).writes ha hwrites
  | failed => exact .failed

-- ════════════════════════════════════════════════════════════════════════
-- Turns
-- ════════════════════════════════════════════════════════════════════════

theorem step_readFile_bind {α : Type} (path : String) (next : Option String → Script α)
    (w : Workspace) :
    ((Script.host.readFile path >>= next).step Workspace.host).run w =
      (next (w.read? path), w) :=
  rfl

theorem run_writeFile (path text : String) (w : Workspace) :
    (Workspace.host.writeFile path text).run w =
      match w.write? path text with
      | some w' => (true, w')
      | none => (false, w) := by
  cases h : w.write? path text <;> simp [Workspace.host, Workspace.attempt, h] <;> rfl

theorem step_writeFile {α : Type} (path text : String) (next : Bool → Script α) (w : Workspace) :
    ((Script.writeFile path text next).step Workspace.host).run w =
      match w.write? path text with
      | some w' => (next true, w')
      | none => (next false, w) := by
  rw [Script.step, StateT.run_bind, run_writeFile]
  cases w.write? path text <;> rfl

/-- A turn in which an artifact is to be written. -/
theorem stage_writeFile {w : Workspace} {a : Artifact} (ha : a ∈ artifacts) {input : String}
    {g : Generated} (hg : j.Yields input g) {next : Bool → Script (Except Failure Nat)}
    (hwritten : ∀ w', j.Writes w w' input → j.IsWritten w' a input → j.Stage w' input (next true))
    (hfailed : ∃ e, next false = .done (.error e)) :
    let turn := ((Script.writeFile (a.path j.outDir input) (a.text g) next).step
      Workspace.host).run w
    j.Writes w turn.2 input ∧ j.Stage turn.2 input turn.1 := by
  rw [step_writeFile]
  cases h : w.write? (a.path j.outDir input) (a.text g) with
  | some w' =>
    have hwrites : j.Writes w w' input := .inr ⟨a, ha, g, hg, h⟩
    exact ⟨hwrites, hwritten w' hwrites (isWritten_of_write? hg h)⟩
  | none =>
    obtain ⟨e, he⟩ := hfailed
    refine ⟨.inl rfl, ?_⟩
    change j.Stage w input (next false)
    rw [he]
    exact .failed

/-- A turn takes a document to its next stage. -/
theorem Stage.step {w : Workspace} {input : String} {script : Script (Except Failure Nat)}
    (h : j.Stage w input script) (hinput : input ∈ j.inputs)
    (hread : w.read? input = j.before.read? input) :
    let turn := (script.step Workspace.host).run w
    j.Writes w turn.2 input ∧ j.Stage turn.2 input turn.1 := by
  cases h with
  | unread =>
    refine ⟨?_, ?_⟩ <;> rw [run_renderInto, step_readFile_bind]
    · exact .inl rfl
    · rw [hread]
      cases hdrawn : drawn j.options input (j.before.read? input) with
      | error e => exact .failed
      | ok g => exact .read ⟨hinput, renders_of_drawn hdrawn⟩
  | @read g hg =>
    exact stage_writeFile (by simp [artifacts]) hg (fun w' _ hprogram => .halfway hg hprogram)
      ⟨_, rfl⟩
  | @halfway g hg hprogram =>
    refine stage_writeFile (by simp [artifacts]) hg (fun w' hwrites hreport => ?_) ⟨_, rfl⟩
    refine .written hg fun a ha => ?_
    simp only [artifacts, List.mem_cons, List.not_mem_nil, or_false] at ha
    rcases ha with rfl | rfl
    · exact hprogram.writes (by simp [artifacts]) hwrites
    · exact hreport
  | written hg hwritten => exact ⟨.inl rfl, .written hg hwritten⟩
  | failed => exact ⟨.inl rfl, .failed⟩

/-- A document that is done without an error has written all its artifacts. -/
theorem Stage.of_done {w : Workspace} {input : String} {n : Nat}
    (h : j.Stage w input (.done (.ok n))) :
    ∃ g, j.Yields input g ∧ ∀ a ∈ artifacts, j.IsWritten w a input := by
  generalize hscript : (Script.done (.ok n) : Script (Except Failure Nat)) = script at h
  cases h with
  | written hg hwritten => exact ⟨_, hg, hwritten⟩
  -- all other scripts but that of a failure have a request left
  | unread =>
    rw [run_renderInto] at hscript
    change Script.done _ = Script.readFile _ _ at hscript
    cases hscript
  | read hg =>
    change Script.done _ = Script.writeFile _ _ _ at hscript
    cases hscript
  | halfway hg hprogram =>
    change Script.done _ = Script.writeFile _ _ _ at hscript
    cases hscript
  | failed => cases hscript

/-- What holds of a batch whatever the turns were. -/
structure Invariant (j : Job) (b : Batch) : Prop where
  inputs : b.tasks.map Prod.fst = j.inputs
  /-- No directory is made, so paths lead where they led before. -/
  directories : b.workspace.directories = j.before.directories
  reads : ∀ input ∈ j.inputs, b.workspace.read? input = j.before.read? input
  stages : ∀ task ∈ b.tasks, j.Stage b.workspace task.1 task.2

namespace Invariant

variable {b : Batch}

theorem begin? {inputs : List String} {outDir : String} {options : RenderOptions} {w : Workspace}
    (h : Batch.begin? outDir options inputs w = some b) :
    Invariant ⟨outDir, options, inputs, b.workspace⟩ b := by
  obtain ⟨made, -, rfl⟩ := Option.map_eq_some_iff.1 h
  refine ⟨?_, rfl, fun _ _ => rfl, fun task htask => ?_⟩
  · rw [List.map_map]
    exact List.map_id inputs
  · obtain ⟨input, -, rfl⟩ := List.mem_map.1 htask
    exact .unread

/-- A turn preserves the invariant. -/
theorem step (h : j.Invariant b) (hapart : j.KeepsApart) (i : Nat) : j.Invariant (b.step i) := by
  unfold Batch.step
  split
  · exact h
  · rename_i input script htask
    have hmem := List.mem_of_getElem? htask
    have hinput : input ∈ j.inputs := h.inputs ▸ List.mem_map_of_mem hmem
    obtain ⟨hwrites, hstage⟩ := (h.stages _ hmem).step hinput (h.reads input hinput)
    dsimp only
    generalize (script.step Workspace.host).run b.workspace = turn at hwrites hstage
    refine ⟨?_, ?_, fun other hother => ?_, fun task htask' => ?_⟩
    · rw [List.map_set, ← h.inputs]
      obtain ⟨hi, heq⟩ := List.getElem?_eq_some_iff.1 htask
      have hlength : i < (b.tasks.map Prod.fst).length := by simpa using hi
      have hown : (b.tasks.map Prod.fst)[i] = input := by simp [heq]
      rw [← hown, List.set_getElem_self]
    · rcases hwrites with heq | ⟨a, -, g, -, hwrite⟩
      · rw [heq, h.directories]
      · rw [(Workspace.read?_write? hwrite).1, h.directories]
    · rcases hwrites with heq | ⟨a, ha, g, -, hwrite⟩
      · rw [heq, h.reads other hother]
      · -- no input has the place of what is written
        have hplaces : b.workspace.filePlace? other ≠
            b.workspace.filePlace? (a.path j.outDir input) := by
          intro hsame
          obtain ⟨place, hplace, -⟩ := Option.bind_eq_some_iff.1 hwrite
          have hnone := hapart other hother input hinput a ha
          rw [Workspace.filePlace?_congr h.directories] at hsame hplace
          rw [Workspace.filePlace?_congr h.directories] at hsame
          rw [hnone hsame, hplace] at hsame
          cases hsame
        rw [(Workspace.read?_write? hwrite).2, if_neg hplaces, h.reads other hother]
    · rcases List.mem_or_eq_of_mem_set htask' with hold | rfl
      · exact (h.stages task hold).writes hwrites
      · exact hstage

/-- All turns of a schedule preserve the invariant. -/
theorem run (h : j.Invariant b) (hapart : j.KeepsApart) (schedule : List Nat) :
    j.Invariant (b.run schedule) := by
  induction schedule generalizing b with
  | nil => exact h
  | cons i schedule ih => exact ih (h.step hapart i)

end Invariant

-- ════════════════════════════════════════════════════════════════════════
-- Ends
-- ════════════════════════════════════════════════════════════════════════

/-- The number of documents that failed only grows. -/
theorem failed_add_le (tally : Tally) (results : List (Except Failure Nat)) :
    tally.failed ≤ (results.foldl Tally.add tally).failed := by
  induction results generalizing tally with
  | nil => exact Nat.le_refl _
  | cons result results ih =>
    refine Nat.le_trans ?_ (ih (tally.add result))
    cases result <;> simp [Tally.add]

/-- No document failed if none was counted. -/
theorem forall_ok_of_failed {tally : Tally} {results : List (Except Failure Nat)}
    (h : (results.foldl Tally.add tally).failed = 0) : ∀ result ∈ results, ∃ n, result = .ok n := by
  induction results generalizing tally with
  | nil => simp
  | cons result results ih =>
    rw [List.forall_mem_cons]
    refine ⟨?_, ih h⟩
    cases result with
    | ok n => exact ⟨n, rfl⟩
    | error e =>
      have hle := failed_add_le (tally.add (.error e)) results
      rw [List.foldl_cons] at h
      simp only [Tally.add] at hle h
      omega

theorem exists_mem_of_mapM {α β : Type} {f : α → Option β} {xs : List α} {ys : List β}
    (h : xs.mapM f = some ys) : ∀ x ∈ xs, ∃ y ∈ ys, f x = some y := by
  induction xs generalizing ys with
  | nil => simp
  | cons x xs ih =>
    rw [List.mapM_cons] at h
    obtain ⟨y, hy, h⟩ := Option.bind_eq_some_iff.1 h
    obtain ⟨rest, hrest, h⟩ := Option.bind_eq_some_iff.1 h
    cases h
    rw [List.forall_mem_cons]
    refine ⟨⟨y, by simp, hy⟩, fun x' hx' => ?_⟩
    obtain ⟨y', hy', heq⟩ := ih hrest x' hx'
    exact ⟨y', List.mem_cons_of_mem _ hy', heq⟩

/-- A batch that ends without an error has done all documents. -/
theorem exists_done_of_outcome {b : Batch} {denyWarnings : Bool}
    (h : b.outcome? denyWarnings = some (.ok ())) :
    ∀ task ∈ b.tasks, ∃ n, task.2 = .done (.ok n) := by
  obtain ⟨results, hresults, hverdict⟩ := Option.map_eq_some_iff.1 h
  have hfailed : (results.foldl Tally.add ⟨0, 0⟩).failed = 0 := by
    unfold Batch.verdict at hverdict
    split_ifs at hverdict with hfailed
    all_goals omega
  have hok := forall_ok_of_failed hfailed
  intro task htask
  obtain ⟨result, hresult, hdone⟩ := exists_mem_of_mapM hresults task htask
  obtain ⟨n, rfl⟩ := hok result hresult
  refine ⟨n, ?_⟩
  cases hscript : task.2 <;> rw [hscript] at hdone <;> cases hdone
  rfl

/-- What a batch leaves behind: every input describes a diagram, and the files of its stem hold what
    inputs with this stem come to. -/
structure Leaves (j : Job) (after : Workspace) (render : String → Generated) : Prop where
  renders : ∀ input ∈ j.inputs, Renders j.before j.options input (render input)
  held : ∀ input ∈ j.inputs, ∀ a ∈ artifacts, ∃ other ∈ j.inputs,
    stemOf other = stemOf input ∧ after.read? (a.path j.outDir input) = some (a.text (render other))

/-- The files of every input hold what the input itself comes to. -/
def KeepsAll (j : Job) (after : Workspace) (render : String → Generated) : Prop :=
  ∀ input ∈ j.inputs, ∀ a ∈ artifacts,
    after.read? (a.path j.outDir input) = some (a.text (render input))

/-- Inputs with one stem come to the same. -/
def Agrees (j : Job) (render : String → Generated) : Prop :=
  ∀ input ∈ j.inputs, ∀ other ∈ j.inputs, stemOf input = stemOf other →
    ∀ a ∈ artifacts, a.text (render input) = a.text (render other)

theorem Leaves.keepsAll_iff {after : Workspace} {render : String → Generated}
    (h : j.Leaves after render) : j.KeepsAll after render ↔ j.Agrees render := by
  constructor
  · intro hkeeps input hinput other hother hstem a ha
    have hpath : a.path j.outDir input = a.path j.outDir other := by
      rw [Artifact.path, Artifact.path, hstem]
    have hread := hkeeps input hinput a ha
    rw [hpath, hkeeps other hother a ha, Option.some.injEq] at hread
    exact hread.symm
  · intro hagrees input hinput a ha
    obtain ⟨other, hother, hstem, hread⟩ := h.held input hinput a ha
    rw [hread, hagrees other hother input hinput hstem a ha]

/-- Documents that are all done leave what they have written. -/
theorem Invariant.leaves {b : Batch} (h : j.Invariant b)
    (hdone : ∀ task ∈ b.tasks, ∃ n, task.2 = .done (.ok n)) :
    ∃ render, j.Leaves b.workspace render := by
  have hwritten : ∀ input ∈ j.inputs, ∃ g, j.Yields input g ∧
      ∀ a ∈ artifacts, j.IsWritten b.workspace a input := by
    intro input hinput
    rw [← h.inputs] at hinput
    obtain ⟨task, htask, rfl⟩ := List.mem_map.1 hinput
    obtain ⟨n, hn⟩ := hdone task htask
    have hstage := h.stages task htask
    rw [hn] at hstage
    exact hstage.of_done
  choose! render hrender using hwritten
  refine ⟨render, fun input hinput => (hrender input hinput).1.2, fun input hinput a ha => ?_⟩
  obtain ⟨other, g, hg, hstem, hread⟩ := (hrender input hinput).2 a ha
  refine ⟨other, hg.1, hstem, ?_⟩
  rw [hread, hg.2.unique (hrender other hg.1).1.2]

end Job

/-- **What a batch leaves behind.** Whatever the order of turns, a batch that ends without an error
    leaves, for every stem, the artifacts of inputs with this stem. It keeps those of all inputs
    exactly if inputs with one stem come to the same, and so it does if no two have one stem. -/
theorem keepsAll_iff_of_batch {outDir : String} {options : RenderOptions} {inputs : List String}
    {w : Workspace} {b : Batch} (hbegin : Batch.begin? outDir options inputs w = some b)
    (hapart : Job.KeepsApart ⟨outDir, options, inputs, b.workspace⟩) {schedule : List Nat}
    {denyWarnings : Bool} (hends : (b.run schedule).outcome? denyWarnings = some (.ok ())) :
    let j : Job := ⟨outDir, options, inputs, b.workspace⟩
    let after := (b.run schedule).workspace
    ∃ render, j.Leaves after render ∧ (j.KeepsAll after render ↔ j.Agrees render) ∧
      ((inputs.map stemOf).Nodup → j.KeepsAll after render) := by
  have hinvariant := (Job.Invariant.begin? hbegin).run hapart schedule
  obtain ⟨render, hleaves⟩ := hinvariant.leaves (Job.exists_done_of_outcome hends)
  refine ⟨render, hleaves, hleaves.keepsAll_iff, fun hstems => ?_⟩
  refine hleaves.keepsAll_iff.2 fun input hinput other hother hstem a _ => ?_
  rw [List.inj_on_of_nodup_map hstems hinput hother hstem]

/-- Two documents in files of different names. -/
def neighbours : Workspace :=
  .ofFiles [("a.json", "\x7b\"links\":[\x7b\"from\":\"x\",\"to\":\"y\"\x7d]\x7d"),
    ("b.json", "\x7b\"device\":\"x\"\x7d")]

theorem keepsAll_neighbours : ∃ b,
    Batch.begin? "out" .standard ["a.json", "b.json"] neighbours = some b ∧
    Job.KeepsApart ⟨"out", .standard, ["a.json", "b.json"], b.workspace⟩ ∧
    (b.run [1, 0, 0, 1, 1, 0]).outcome? false = some (.ok ()) ∧
    (let j : Job := ⟨"out", .standard, ["a.json", "b.json"], b.workspace⟩
    let after := (b.run [1, 0, 0, 1, 1, 0]).workspace
    ∃ render, j.Leaves after render ∧ (j.KeepsAll after render ↔ j.Agrees render) ∧
      ((["a.json", "b.json"].map stemOf).Nodup → j.KeepsAll after render)) := by
  have hfacts : ((Batch.begin? "out" .standard ["a.json", "b.json"] neighbours).map fun b =>
      (decide (Job.KeepsApart ⟨"out", .standard, ["a.json", "b.json"], b.workspace⟩),
        (b.run [1, 0, 0, 1, 1, 0]).outcome? false)) = some (true, some (.ok ())) := by
    decide +kernel
  cases hb : Batch.begin? "out" .standard ["a.json", "b.json"] neighbours with
  | none => simp [hb] at hfacts
  | some b =>
    simp only [hb, Option.map_some, Option.some.injEq, Prod.mk.injEq, decide_eq_true_eq] at hfacts
    obtain ⟨hapart, hends⟩ := hfacts
    exact ⟨b, rfl, hapart, hends, keepsAll_iff_of_batch hb hapart hends⟩

/-- Two documents in files of one name, in different directories. -/
def namesakes : Workspace :=
  .ofFiles [("a/x.json", "\x7b\"links\":[\x7b\"from\":\"x\",\"to\":\"y\"\x7d]\x7d"),
    ("b/x.json", "\x7b\"device\":\"x\"\x7d")]

/-- The batch ends without an error, but the program of the first document is lost. -/
theorem not_keepsAll_namesakes :
    ¬ ∀ b, Batch.begin? "out" .standard ["a/x.json", "b/x.json"] namesakes = some b →
      Job.KeepsApart ⟨"out", .standard, ["a/x.json", "b/x.json"], b.workspace⟩ →
      ∀ schedule, (b.run schedule).outcome? false = some (.ok ()) →
        ∀ g, Renders b.workspace .standard "a/x.json" g →
          (b.run schedule).workspace.read? "out/x.dot" = some g.dot := by
  intro hkeeps
  have hfacts : ((Batch.begin? "out" .standard ["a/x.json", "b/x.json"] namesakes).map fun b =>
      (decide (Job.KeepsApart ⟨"out", .standard, ["a/x.json", "b/x.json"], b.workspace⟩),
        (b.run [0, 0, 0, 1, 1, 1]).outcome? false,
        (drawn .standard "a/x.json" (b.workspace.read? "a/x.json")).toOption.map fun g =>
          decide ((b.run [0, 0, 0, 1, 1, 1]).workspace.read? "out/x.dot" = some g.dot))) =
      some (true, some (.ok ()), some false) := by decide +kernel
  cases hb : Batch.begin? "out" .standard ["a/x.json", "b/x.json"] namesakes with
  | none => simp [hb] at hfacts
  | some b =>
    simp only [hb, Option.map_some, Option.some.injEq, Prod.mk.injEq, decide_eq_true_eq] at hfacts
    obtain ⟨hapart, hends, hlost⟩ := hfacts
    cases hg : drawn .standard "a/x.json" (b.workspace.read? "a/x.json") with
    | error e => simp [hg, Except.toOption] at hlost
    | ok g =>
      simp only [hg, Except.toOption, Option.map_some, Option.some.injEq,
        decide_eq_false_iff_not] at hlost
      exact hlost (hkeeps b hb hapart _ hends g (renders_of_drawn hg))

end InfraDiagram.CommandLine
