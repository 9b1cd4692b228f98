import InfraDiagram.Proofs.Outputs
import Mathlib.Algebra.GroupWithZero.Nat

/-!
# Documents that leave each other alone

The documents of a batch share a directory and nothing else. If no two of their inputs have one
stem, no artifact has the place of an input and everything can be written, each document comes to
what it comes to on its own, whatever the order of turns: one that fails changes nothing, and one
that describes a diagram leaves the artifacts that it would leave if it were rendered alone.

## Main definitions

- `Job.alone`, `Job.RendersAlone` — what becomes of an input on its own
- `Job.tally`, `Job.verdict` — how a batch must end
- `Job.Fulfilled` — what a batch must leave behind
- `Job.Course` — what is left of a document, and how many turns it takes at most
- `Job.Progress` — what holds after some turns
- `Job.Ends`, `Job.Isolated` — all orders of turns come to the same end

## Main statements

- `Job.Course.step`, `Job.Progress.step`, `Job.Progress.run` — turns preserve what holds
- `Job.Fulfilled.alike` — jobs for the same inputs leave the same behind
- `isolated_of_batch` — the documents of a batch leave each other alone
-/

namespace InfraDiagram.CommandLine

open Dot

/-- Workspaces with the same directories and the same texts in the same places. -/
structure Workspace.Alike (w w' : Workspace) : Prop where
  directories : w.directories = w'.directories
  files : ∀ l, w.files.lookup l = w'.files.lookup l
  printed : w.printed = w'.printed

namespace Job

variable {j : Job}

-- ════════════════════════════════════════════════════════════════════════
-- Inputs on their own
-- ════════════════════════════════════════════════════════════════════════

/-- What becomes of an input on its own. -/
def alone (j : Job) (input : String) : Except Failure Generated :=
  drawn j.options input (j.before.read? input)

theorem yields_iff {input : String} {g : Generated} :
    j.Yields input g ↔ input ∈ j.inputs ∧ j.alone input = .ok g := by
  refine and_congr_right fun _ => ⟨?_, renders_of_drawn⟩
  rintro ⟨text, doc, htext, hdoc, hg⟩
  rw [alone, htext, drawn]
  simp only [hdoc, hg]
  rfl

/-- Whatever there is to write can be written. -/
def CanWrite (j : Job) : Prop :=
  ∀ input ∈ j.inputs, (j.alone input).isOk = true → ∀ a ∈ artifacts,
    j.before.Takes (a.path j.outDir input)

instance : Decidable j.CanWrite :=
  inferInstanceAs (Decidable (∀ input ∈ j.inputs, (j.alone input).isOk = true → ∀ a ∈ artifacts,
    j.before.Takes (a.path j.outDir input)))

/-- How many problems a document has on its own; none if it fails. -/
def problems (j : Job) (input : String) : Nat :=
  match j.alone input with
  | .ok g => g.diagnostics.length
  | .error _ => 0

/-- How many inputs fail on their own, and how many problems the others have. -/
def tally (j : Job) : Tally :=
  ⟨j.inputs.countP fun input => !(j.alone input).isOk, (j.inputs.map j.problems).sum⟩

/-- How a batch must end, by what its inputs come to on their own. -/
def verdict (j : Job) (denyWarnings : Bool) : Except Failure Unit :=
  Batch.verdict j.tally j.inputs.length denyWarnings

/-- A place for an artifact of an input that describes a diagram. -/
def Owns (j : Job) (l : Location) : Prop :=
  ∃ input ∈ j.inputs, (j.alone input).isOk = true ∧ ∃ a ∈ artifacts,
    j.before.filePlace? (a.path j.outDir input) = some l

/-- A workspace that has what all inputs come to on their own, and is otherwise as it was. -/
structure Fulfilled (j : Job) (after : Workspace) : Prop where
  directories : after.directories = j.before.directories
  printed : after.printed = j.before.printed
  written : ∀ input ∈ j.inputs, ∀ g, j.alone input = .ok g → ∀ a ∈ artifacts,
    after.read? (a.path j.outDir input) = some (a.text g)
  /-- Nothing is written for an input that fails. -/
  spared : ∀ input ∈ j.inputs, ∀ e, j.alone input = .error e → ∀ a ∈ artifacts,
    after.read? (a.path j.outDir input) = j.before.read? (a.path j.outDir input)
  kept : ∀ l, ¬ j.Owns l → after.files.lookup l = j.before.files.lookup l

/-- An input on its own, rendered to two files of any workspace that has the same text of it: it
    fails for the same reason and nothing changes, or the files come to hold what its files of the
    batch hold. -/
def RendersAlone (j : Job) (after : Workspace) (input : String) : Prop :=
  ∀ (w : Workspace) (output idMap : String) (denyWarnings : Bool),
    w.read? input = j.before.read? input → w.Takes output → w.Takes idMap →
    w.filePlace? output ≠ w.filePlace? idMap →
    let single := (renderFile Workspace.host input (some output) (some idMap) j.options
      denyWarnings).run.run w
    match j.alone input with
    | .error e => single = (.error e, w)
    | .ok g =>
      single.1 = (if denyWarnings && 0 < g.diagnostics.length then
        .error (.deniedWarnings g.diagnostics.length) else .ok ()) ∧
      (∃ text, single.2.read? output = some text ∧
        after.read? (Artifact.program.path j.outDir input) = some text) ∧
      ∃ text, single.2.read? idMap = some text ∧
        after.read? (Artifact.report.path j.outDir input) = some text

-- ════════════════════════════════════════════════════════════════════════
-- Turns of one document
-- ════════════════════════════════════════════════════════════════════════

/-- The result of a document that is done, by what becomes of it on its own. -/
def result (j : Job) (input : String) : Except Failure Nat :=
  (j.alone input).map fun g => g.diagnostics.length

/-- What is left of the script of a document, and how many turns it takes at most. -/
inductive Course (j : Job) (input : String) : Nat → Script (Except Failure Nat) → Prop where
  | unread : Course j input 3 (renderInto Script.host j.outDir j.options input).run
  | read {g : Generated} (h : j.alone input = .ok g) :
      Course j input 2 (writeArtifacts Script.host j.outDir input g)
  | halfway {g : Generated} (h : j.alone input = .ok g) :
      Course j input 1 (writeReport Script.host j.outDir input g)
  | done (turns : Nat) : Course j input turns (.done (j.result input))

namespace Course

variable {w : Workspace} {input : String} {turns : Nat} {script : Script (Except Failure Nat)}

theorem of_error {e : Failure} (h : j.alone input = .error e) :
    j.Course input turns (.done (.error e)) := by
  have hend : j.result input = .error e := by rw [result, h]; rfl
  exact hend ▸ .done turns

theorem of_ok {g : Generated} (h : j.alone input = .ok g) :
    j.Course input turns (.done (.ok g.diagnostics.length)) := by
  have hend : j.result input = .ok g.diagnostics.length := by rw [result, h]; rfl
  exact hend ▸ .done turns

/-- A turn in which a file is written. -/
theorem step_of_takes {path text : String} {next : Bool → Script (Except Failure Nat)}
    (h : w.Takes path) (hnext : j.Course input turns (next true)) :
    j.Course input turns (((Script.writeFile path text next).step Workspace.host).run w).1 := by
  obtain ⟨w', hw'⟩ := Option.isSome_iff_exists.1 (h text)
  rw [step_writeFile, hw']
  exact hnext

/-- A turn takes a document one turn closer to its end. -/
theorem step (h : j.Course input turns script) (hread : w.read? input = j.before.read? input)
    (hwrite : (j.alone input).isOk = true → ∀ a ∈ artifacts, w.Takes (a.path j.outDir input)) :
    j.Course input (turns - 1) ((script.step Workspace.host).run w).1 := by
  cases h with
  | unread =>
    rw [run_renderInto, step_readFile_bind, hread]
    cases halone : drawn j.options input (j.before.read? input) with
    | error e => exact .of_error halone
    | ok g => exact .read halone
  | read halone =>
    exact step_of_takes (hwrite (by rw [halone]; rfl) .program (by simp [artifacts]))
      (.halfway halone)
  | halfway halone =>
    exact step_of_takes (hwrite (by rw [halone]; rfl) .report (by simp [artifacts]))
      (.of_ok halone)
  | done turns => exact .done _

/-- A turn of a document that fails changes nothing. -/
theorem idle (h : j.Course input turns script) {e : Failure} (halone : j.alone input = .error e) :
    ((script.step Workspace.host).run w).2 = w := by
  cases h with
  | unread => rw [run_renderInto, step_readFile_bind]
  | read hok => cases hok.symm.trans halone
  | halfway hok => cases hok.symm.trans halone
  | done turns => rfl

/-- The result of a document is what becomes of it on its own. -/
theorem result?_eq (h : j.Course input turns script) {result : Except Failure Nat}
    (hresult : script.result? = some result) : result = j.result input := by
  cases h with
  | unread =>
    rw [run_renderInto] at hresult
    cases hresult
  | read halone => cases hresult
  | halfway halone => cases hresult
  | done turns => exact (Option.some.inj hresult).symm

theorem result?_of_zero (h : j.Course input 0 script) : script.result? = some (j.result input) := by
  cases h
  rfl

end Course

-- ════════════════════════════════════════════════════════════════════════
-- Turns of all documents
-- ════════════════════════════════════════════════════════════════════════

/-- Only places of artifacts change. -/
theorem Writes.keeps {w w' : Workspace} {input : String} (h : j.Writes w w' input)
    (hdirectories : w.directories = j.before.directories) :
    w'.printed = w.printed ∧ ∀ l, ¬ j.Owns l → w'.files.lookup l = w.files.lookup l := by
  rcases h with rfl | ⟨a, ha, g, hg, hwrite⟩
  · exact ⟨rfl, fun _ _ => rfl⟩
  obtain ⟨place, hplace, rfl⟩ := Workspace.exists_place_of_write? hwrite
  refine ⟨rfl, fun l hl => ?_⟩
  obtain ⟨hinput, halone⟩ := yields_iff.1 hg
  rw [Workspace.lookup_setFile, if_neg]
  rintro rfl
  refine hl ⟨input, hinput, by rw [halone]; rfl, a, ha, ?_⟩
  rw [← Workspace.filePlace?_congr hdirectories, hplace]

/-- What holds of a batch after some turns, if everything can be written. -/
structure Progress (j : Job) (turns : List Nat) (b : Batch) : Prop extends j.Invariant b where
  courses : ∀ i input script, b.tasks[i]? = some (input, script) →
    j.Course input (3 - turns.count i) script
  printed : b.workspace.printed = j.before.printed
  kept : ∀ l, ¬ j.Owns l → b.workspace.files.lookup l = j.before.files.lookup l

namespace Progress

variable {b : Batch} {turns : List Nat}

theorem begin? {inputs : List String} {outDir : String} {options : RenderOptions} {w : Workspace}
    (h : Batch.begin? outDir options inputs w = some b) :
    Progress ⟨outDir, options, inputs, b.workspace⟩ [] b := by
  refine ⟨Invariant.begin? h, fun i input script htask => ?_, rfl, fun _ _ => rfl⟩
  obtain ⟨made, -, rfl⟩ := Option.map_eq_some_iff.1 h
  rw [List.getElem?_map] at htask
  obtain ⟨input', -, htask⟩ := Option.map_eq_some_iff.1 htask
  cases htask
  exact .unread

theorem mem_inputs (h : j.Progress turns b) {task : String × Script (Except Failure Nat)}
    (htask : task ∈ b.tasks) : task.1 ∈ j.inputs :=
  h.inputs ▸ List.mem_map_of_mem htask

theorem exists_course (h : j.Progress turns b) {task : String × Script (Except Failure Nat)}
    (htask : task ∈ b.tasks) :
    ∃ i < j.inputs.length, j.Course task.1 (3 - turns.count i) task.2 := by
  obtain ⟨i, hi, heq⟩ := List.mem_iff_getElem.1 htask
  refine ⟨i, ?_, h.courses i _ _ (List.getElem?_eq_some_iff.2 ⟨hi, heq⟩)⟩
  rwa [← h.inputs, List.length_map]

/-- A turn preserves what holds, with one turn less for its document. -/
theorem step (h : j.Progress turns b) (hapart : j.KeepsApart) (hwrite : j.CanWrite) (i : Nat) :
    j.Progress (turns ++ [i]) (b.step i) := by
  have hinvariant := h.toInvariant.step hapart i
  have hown : (turns ++ [i]).count i = turns.count i + 1 := by
    rw [List.count_append, List.count_singleton_self]
  have hother : ∀ k, i ≠ k → (turns ++ [i]).count k = turns.count k := fun k hk => by
    rw [List.count_append, List.count_singleton, beq_false_of_ne hk, if_neg Bool.false_ne_true,
      Nat.add_zero]
  cases htask : b.tasks[i]? with
  | none =>
    have hstep : b.step i = b := by simp [Batch.step, htask]
    rw [hstep] at hinvariant ⊢
    refine ⟨hinvariant, fun k input script hk => ?_, h.printed, h.kept⟩
    have hne : i ≠ k := by
      rintro rfl
      cases htask.symm.trans hk
    exact hother k hne ▸ h.courses k input script hk
  | some task =>
    obtain ⟨input, script⟩ := task
    have hmem := List.mem_of_getElem? htask
    have hinput := h.mem_inputs hmem
    have hread := h.reads input hinput
    obtain ⟨hwrites, -⟩ := (h.stages _ hmem).step hinput hread
    have hcourse := (h.courses i input script htask).step hread fun hok a ha =>
      (hwrite input hinput hok a ha).congr h.directories
    obtain ⟨hprinted, hkept⟩ := hwrites.keeps h.directories
    have hstep : b.step i = ⟨b.tasks.set i (input, ((script.step Workspace.host).run
        b.workspace).1), ((script.step Workspace.host).run b.workspace).2⟩ := by
      simp [Batch.step, htask]
    rw [hstep] at hinvariant ⊢
    refine ⟨hinvariant, fun k other script' hk => ?_, hprinted.trans h.printed,
      fun l hl => (hkept l hl).trans (h.kept l hl)⟩
    dsimp only at hk
    rw [List.getElem?_set] at hk
    by_cases hik : i = k
    · subst hik
      rw [if_pos rfl, if_pos (List.getElem?_eq_some_iff.1 htask).1] at hk
      cases hk
      rw [hown, Nat.sub_add_eq]
      exact hcourse
    · rw [if_neg hik] at hk
      exact hother k hik ▸ h.courses k other script' hk

/-- All turns of a schedule preserve what holds. -/
theorem run (h : j.Progress turns b) (hapart : j.KeepsApart) (hwrite : j.CanWrite)
    (schedule : List Nat) : j.Progress (turns ++ schedule) (b.run schedule) := by
  induction schedule generalizing turns b with
  | nil => rwa [List.append_nil]
  | cons i schedule ih =>
    rw [List.append_cons]
    exact ih (h.step hapart hwrite i)

-- ════════════════════════════════════════════════════════════════════════
-- Ends
-- ════════════════════════════════════════════════════════════════════════

theorem mapM_eq_map {α β : Type} {f : α → Option β} {g : α → β} {xs : List α}
    (h : ∀ x ∈ xs, f x = some (g x)) : xs.mapM f = some (xs.map g) := by
  induction xs with
  | nil => rfl
  | cons x xs ih =>
    rw [List.forall_mem_cons] at h
    rw [List.mapM_cons, h.1, ih h.2]
    rfl

/-- The results of documents that are all done are what becomes of them on their own. -/
theorem results?_eq (h : j.Progress turns b)
    (hdone : ∀ task ∈ b.tasks, ∃ result, task.2.result? = some result) :
    b.results? = some (j.inputs.map j.result) := by
  rw [← h.inputs, List.map_map]
  refine mapM_eq_map fun task htask => ?_
  obtain ⟨result, hresult⟩ := hdone task htask
  obtain ⟨i, -, hcourse⟩ := h.exists_course htask
  rw [hresult, hcourse.result?_eq hresult]
  rfl

/-- With three turns for each document, all are done. -/
theorem results?_of_count (h : j.Progress turns b)
    (hturns : ∀ i < j.inputs.length, 3 ≤ turns.count i) :
    b.results? = some (j.inputs.map j.result) := by
  refine h.results?_eq fun task htask => ?_
  obtain ⟨i, hi, hcourse⟩ := h.exists_course htask
  rw [Nat.sub_eq_zero_of_le (hturns i hi)] at hcourse
  exact ⟨_, hcourse.result?_of_zero⟩

theorem eq_of_results? (h : j.Progress turns b) {results : List (Except Failure Nat)}
    (hresults : b.results? = some results) : results = j.inputs.map j.result := by
  have hdone : ∀ task ∈ b.tasks, ∃ result, task.2.result? = some result := fun task htask => by
    obtain ⟨result, -, hresult⟩ := exists_mem_of_mapM hresults task htask
    exact ⟨result, hresult⟩
  exact Option.some.inj (hresults.symm.trans (h.results?_eq hdone))

/-- A document that is done has left what it comes to on its own, if no other one has its stem. -/
theorem read?_of_done (h : j.Progress turns b) (hstems : (j.inputs.map stemOf).Nodup)
    {input : String} {script : Script (Except Failure Nat)} (htask : (input, script) ∈ b.tasks)
    {result : Except Failure Nat} (hresult : script.result? = some result) {g : Generated}
    (hg : j.alone input = .ok g) {a : Artifact} (ha : a ∈ artifacts) :
    b.workspace.read? (a.path j.outDir input) = some (a.text g) := by
  obtain ⟨i, -, hcourse⟩ := h.exists_course htask
  have hscript : script = .done (.ok g.diagnostics.length) := by
    have hend := hcourse.result?_eq hresult
    rw [Job.result, hg] at hend
    subst hend
    cases script <;> cases hresult
    rfl
  have hstage := h.stages _ htask
  rw [hscript] at hstage
  obtain ⟨-, -, hwritten⟩ := hstage.of_done
  obtain ⟨other, g', hyields, hstem, hread⟩ := hwritten a ha
  obtain ⟨hother, halone⟩ := yields_iff.1 hyields
  -- the file holds what an input with this stem comes to, and this is the only one
  have hsame := List.inj_on_of_nodup_map hstems hother (h.mem_inputs htask) hstem
  rw [hsame, hg] at halone
  rw [hread, ← Except.ok.inj halone]

/-- The places of an input that fails belong to no other one, if no other one has its stem. -/
theorem read?_of_error (h : j.Progress turns b) (hstems : (j.inputs.map stemOf).Nodup)
    {input : String} (hinput : input ∈ j.inputs) {e : Failure} (he : j.alone input = .error e)
    {a : Artifact} (ha : a ∈ artifacts) :
    b.workspace.read? (a.path j.outDir input) = j.before.read? (a.path j.outDir input) := by
  rw [Workspace.read?, Workspace.read?, Workspace.filePlace?_congr h.directories]
  cases hplace : j.before.filePlace? (a.path j.outDir input) with
  | none => rfl
  | some l =>
    refine h.kept l ?_
    rintro ⟨other, hother, hok, b, hb, hplace'⟩
    obtain ⟨-, hstem⟩ := Artifact.eq_of_place ha hb hplace hplace'
    rw [← List.inj_on_of_nodup_map hstems hinput hother hstem, he] at hok
    cases hok

theorem fulfilled (h : j.Progress turns b) (hstems : (j.inputs.map stemOf).Nodup)
    {results : List (Except Failure Nat)} (hresults : b.results? = some results) :
    j.Fulfilled b.workspace := by
  refine ⟨h.directories, h.printed, fun input hinput g hg a ha => ?_,
    fun input hinput e he a ha => h.read?_of_error hstems hinput he ha, h.kept⟩
  rw [← h.inputs] at hinput
  obtain ⟨⟨_, script⟩, htask, rfl⟩ := List.mem_map.1 hinput
  obtain ⟨result, -, hresult⟩ := exists_mem_of_mapM hresults _ htask
  exact h.read?_of_done hstems htask hresult hg ha

end Progress

/-- How the tally of all results grows. -/
theorem foldl_add (j : Job) (inputs : List String) (start : Tally) :
    (inputs.map j.result).foldl Tally.add start =
      ⟨start.failed + inputs.countP fun input => !(j.alone input).isOk,
        start.warnings + (inputs.map j.problems).sum⟩ := by
  induction inputs generalizing start with
  | nil => rfl
  | cons input inputs ih =>
    rw [List.map_cons, List.foldl_cons, ih, List.countP_cons, List.map_cons, List.sum_cons]
    cases halone : j.alone input with
    | ok g =>
      simp [result, problems, halone, Except.map, Tally.add, Except.toBool, Nat.add_assoc]
    | error e =>
      simp [result, problems, halone, Except.map, Tally.add, Except.toBool, Nat.add_assoc,
        Nat.add_comm 1]

/-- Results come to one verdict in whatever order they are counted. -/
theorem verdict_of_perm {joined : List (Except Failure Nat)}
    (h : joined.Perm (j.inputs.map j.result)) (denyWarnings : Bool) :
    Batch.verdict (joined.foldl Tally.add ⟨0, 0⟩) joined.length denyWarnings =
      j.verdict denyWarnings := by
  have hswap : ∀ x ∈ joined, ∀ y ∈ joined, ∀ t : Tally, (t.add x).add y = (t.add y).add x := by
    intro x _ y _ t
    cases x <;> cases y <;> simp [Tally.add, Nat.add_right_comm]
  rw [h.foldl_eq' hswap, foldl_add, h.length_eq, List.length_map, verdict, tally, Nat.zero_add,
    Nat.zero_add]

/-- Jobs for the same inputs leave the same behind. -/
theorem Fulfilled.alike {j' : Job} {after after' : Workspace} (h : j.Fulfilled after)
    (h' : j'.Fulfilled after') (houtDir : j'.outDir = j.outDir) (hoptions : j'.options = j.options)
    (hbefore : j'.before = j.before) (hinputs : j'.inputs.Perm j.inputs) : after'.Alike after := by
  have halone : j'.alone = j.alone := by
    funext input
    rw [alone, alone, hoptions, hbefore]
  refine ⟨by rw [h.directories, h'.directories, hbefore], fun l => ?_,
    by rw [h.printed, h'.printed, hbefore]⟩
  by_cases hl : j.Owns l
  · obtain ⟨input, hinput, hok, a, ha, hplace⟩ := hl
    cases hg : j.alone input with
    | error e =>
      rw [hg] at hok
      cases hok
    | ok g =>
      have hread := h.written input hinput g hg a ha
      have hread' := h'.written input (hinputs.mem_iff.2 hinput) g (halone ▸ hg) a ha
      rw [houtDir] at hread'
      rw [Workspace.read?, Workspace.filePlace?_congr h.directories, hplace] at hread
      rw [Workspace.read?, Workspace.filePlace?_congr h'.directories, hbefore, hplace] at hread'
      exact hread'.trans hread.symm
  · have hl' : ¬ j'.Owns l := by
      rintro ⟨input, hinput, hok, a, ha, hplace⟩
      refine hl ⟨input, hinputs.mem_iff.1 hinput, halone ▸ hok, a, ha, ?_⟩
      rw [← houtDir, ← hbefore, hplace]
    rw [h.kept l hl, h'.kept l hl', hbefore]

-- ════════════════════════════════════════════════════════════════════════
-- Documents rendered alone
-- ════════════════════════════════════════════════════════════════════════

/-- An input that is rendered alone comes to what it comes to in a batch. -/
theorem Fulfilled.rendersAlone {after : Workspace} (h : j.Fulfilled after) {input : String}
    (hinput : input ∈ j.inputs) : j.RendersAlone after input := by
  intro w output idMap denyWarnings hread houtput hidMap hplaces
  have hrun : (Workspace.host.readFile input).run w = (j.before.read? input, w) := by
    rw [← hread]
    rfl
  rw [run_renderFile, Batch.run_bind_eq hrun]
  cases halone : j.alone input with
  | error e =>
    have hdrawn : drawn j.options input (j.before.read? input) = .error e := halone
    rw [hdrawn]
    rfl
  | ok g =>
    have hdrawn : drawn j.options input (j.before.read? input) = .ok g := halone
    obtain ⟨w₁, hw₁⟩ := Option.isSome_iff_exists.1 (houtput g.dot)
    obtain ⟨hdirectories, hreads₁⟩ := Workspace.read?_write? hw₁
    obtain ⟨w₂, hw₂⟩ := Option.isSome_iff_exists.1
      (hidMap.congr hdirectories (Generated.reportText g))
    have hreads₂ := (Workspace.read?_write? hw₂).2
    have hwrite₁ : (Workspace.host.writeFile output g.dot).run w = (true, w₁) := by
      rw [run_writeFile, hw₁]
    have hwrite₂ : (Workspace.host.writeFile idMap (Generated.reportText g)).run w₁ =
        (true, w₂) := by
      rw [run_writeFile, hw₂]
    rw [hdrawn]
    dsimp only
    rw [Batch.run_bind_eq hwrite₁, if_pos rfl, Batch.run_bind_eq hwrite₂, if_pos rfl]
    refine ⟨?_, ⟨g.dot, ?_, h.written input hinput g halone .program (by simp [artifacts])⟩,
      Generated.reportText g, ?_, h.written input hinput g halone .report (by simp [artifacts])⟩
    · rfl
    · change w₂.read? output = _
      rw [hreads₂, Workspace.filePlace?_congr hdirectories,
        Workspace.filePlace?_congr hdirectories, if_neg hplaces, hreads₁, if_pos rfl]
    · change w₂.read? idMap = _
      rw [hreads₂, if_pos rfl]

-- ════════════════════════════════════════════════════════════════════════
-- Batches
-- ════════════════════════════════════════════════════════════════════════

/-- What holds of a workspace once all documents of a batch are done. -/
structure Ends (j : Job) (after : Workspace) : Prop where
  fulfilled : j.Fulfilled after
  rendersAlone : ∀ input ∈ j.inputs, j.RendersAlone after input

/-- All orders of turns of a batch come to the same. -/
structure Isolated (j : Job) (b : Batch) : Prop where
  /-- Three turns for each document are enough. -/
  halts : ∀ schedule : List Nat, (∀ i < j.inputs.length, 3 ≤ schedule.count i) →
    ∃ results, (b.run schedule).results? = some results
  ends : ∀ schedule results, (b.run schedule).results? = some results →
    j.Ends (b.run schedule).workspace
  /-- The results may be counted in any order. -/
  verdict : ∀ schedule results, (b.run schedule).results? = some results →
    ∀ joined : List (Except Failure Nat), joined.Perm results → ∀ denyWarnings,
      Batch.verdict (joined.foldl Tally.add ⟨0, 0⟩) joined.length denyWarnings =
        j.verdict denyWarnings
  /-- A turn of a document that fails changes nothing. -/
  idle : ∀ schedule i input script e, (b.run schedule).tasks[i]? = some (input, script) →
    j.alone input = .error e → ((b.run schedule).step i).workspace = (b.run schedule).workspace

theorem isolated_of_progress {b : Batch} (h : j.Progress [] b)
    (hstems : (j.inputs.map stemOf).Nodup) (hapart : j.KeepsApart) (hwrite : j.CanWrite) :
    j.Isolated b := by
  have hrun : ∀ schedule, j.Progress schedule (b.run schedule) := fun schedule =>
    h.run hapart hwrite schedule
  refine ⟨fun schedule hturns => ⟨_, (hrun schedule).results?_of_count hturns⟩,
    fun schedule results hresults => ?_, fun schedule results hresults joined hjoined => ?_,
    fun schedule i input script e htask he => ?_⟩
  · have hfulfilled := (hrun schedule).fulfilled hstems hresults
    exact ⟨hfulfilled, fun input => hfulfilled.rendersAlone⟩
  · rw [(hrun schedule).eq_of_results? hresults] at hjoined
    exact verdict_of_perm hjoined
  · rw [Batch.step, htask]
    exact ((hrun schedule).courses i input script htask).idle he

end Job

namespace Batch

/-- Whether problems are allowed does not change what is left behind. -/
theorem renderAll_snd (inputs : List String) (outDir : String) (options : RenderOptions)
    (denyWarnings denyWarnings' : Bool) (w : Workspace) :
    ((renderAll Workspace.host inputs outDir options denyWarnings).run.run w).2 =
      ((renderAll Workspace.host inputs outDir options denyWarnings').run.run w).2 := by
  rw [run_renderAll, run_renderAll, StateT.run_bind, StateT.run_bind]
  cases (Workspace.host.makeDirectory outDir).run w with
  | mk made w' => cases made <;> rfl

theorem workspace_of_begin? {outDir : String} {options : RenderOptions}
    {inputs inputs' : List String} {w : Workspace} {b b' : Batch}
    (h : begin? outDir options inputs w = some b) (h' : begin? outDir options inputs' w = some b') :
    b'.workspace = b.workspace := by
  obtain ⟨made, hmade, rfl⟩ := Option.map_eq_some_iff.1 h
  obtain ⟨made', hmade', rfl⟩ := Option.map_eq_some_iff.1 h'
  exact Option.some.inj (hmade'.symm.trans hmade)

end Batch

section Command

variable {outDir : String} {options : RenderOptions} {inputs : List String} {w : Workspace}
  {b : Batch}

/-- Batches for the same inputs in two orders come to the same. -/
theorem alike_of_perm (hbegin : Batch.begin? outDir options inputs w = some b)
    (hstems : (inputs.map stemOf).Nodup)
    (hapart : Job.KeepsApart ⟨outDir, options, inputs, b.workspace⟩)
    (hwrite : Job.CanWrite ⟨outDir, options, inputs, b.workspace⟩) {inputs' : List String}
    {b' : Batch} (hperm : inputs'.Perm inputs)
    (hbegin' : Batch.begin? outDir options inputs' w = some b') {schedule schedule' : List Nat}
    {results results' : List (Except Failure Nat)}
    (hresults : (b.run schedule).results? = some results)
    (hresults' : (b'.run schedule').results? = some results') :
    (b'.run schedule').workspace.Alike (b.run schedule).workspace ∧ results'.Perm results := by
  have hworkspace := Batch.workspace_of_begin? hbegin hbegin'
  have hmem : ∀ input, input ∈ inputs' ↔ input ∈ inputs := fun _ => hperm.mem_iff
  have hprogress' : Job.Progress ⟨outDir, options, inputs', b.workspace⟩ [] b' :=
    hworkspace ▸ .begin? hbegin'
  have hapart' : Job.KeepsApart ⟨outDir, options, inputs', b.workspace⟩ :=
    fun input hinput other hother => hapart input ((hmem _).1 hinput) other ((hmem _).1 hother)
  have hwrite' : Job.CanWrite ⟨outDir, options, inputs', b.workspace⟩ :=
    fun input hinput => hwrite input ((hmem _).1 hinput)
  have hstems' : (inputs'.map stemOf).Nodup := (hperm.map stemOf).nodup_iff.2 hstems
  have hrun := (Job.Progress.begin? hbegin).run hapart hwrite schedule
  have hrun' := hprogress'.run hapart' hwrite' schedule'
  refine ⟨(hrun.fulfilled hstems hresults).alike (hrun'.fulfilled hstems' hresults') rfl rfl rfl
    hperm, ?_⟩
  rw [hrun.eq_of_results? hresults, hrun'.eq_of_results? hresults']
  exact hperm.map _

/-- The command comes to the end of all orders of turns. -/
theorem Job.Isolated.exists_renderAll (hbegin : Batch.begin? outDir options inputs w = some b)
    (h : Job.Isolated ⟨outDir, options, inputs, b.workspace⟩ b) :
    ∃ after, Job.Ends ⟨outDir, options, inputs, b.workspace⟩ after ∧ ∀ denyWarnings,
      (renderAll Workspace.host inputs outDir options denyWarnings).run.run w =
        (Job.verdict ⟨outDir, options, inputs, b.workspace⟩ denyWarnings, after) := by
  have hend : ∀ denyWarnings, ∃ after, Job.Ends ⟨outDir, options, inputs, b.workspace⟩ after ∧
      (renderAll Workspace.host inputs outDir options denyWarnings).run.run w =
        (Job.verdict ⟨outDir, options, inputs, b.workspace⟩ denyWarnings, after) := by
    intro denyWarnings
    have hrenderAll := Batch.renderAll_eq inputs outDir options denyWarnings w
    rw [hbegin] at hrenderAll
    obtain ⟨schedule, outcome, houtcome, hrun⟩ := hrenderAll
    obtain ⟨results, hresults, rfl⟩ := Option.map_eq_some_iff.1 houtcome
    have hverdict := h.verdict schedule results hresults results (.refl _)
    exact ⟨_, h.ends schedule results hresults, by rw [hrun, hverdict]⟩
  obtain ⟨after, hends, hrun⟩ := hend false
  refine ⟨after, hends, fun denyWarnings => ?_⟩
  obtain ⟨after', -, hrun'⟩ := hend denyWarnings
  have hsame := Batch.renderAll_snd inputs outDir options denyWarnings false w
  rw [hrun, hrun'] at hsame
  exact hrun'.trans (congrArg (Prod.mk _) hsame)

/-- **Documents of a batch leave each other alone.** If no two inputs have one stem, no artifact has
    the place of an input and everything can be written, all orders of turns come to one end, also
    if the inputs are given in another order. An input that describes a diagram has the files that
    it has when it is rendered alone, one that fails changes nothing, and the verdict counts what
    the inputs come to alone. The command comes to this end too, and leaves the same behind whether
    problems are allowed or not. -/
theorem isolated_of_batch (hbegin : Batch.begin? outDir options inputs w = some b)
    (hstems : (inputs.map stemOf).Nodup)
    (hapart : Job.KeepsApart ⟨outDir, options, inputs, b.workspace⟩)
    (hwrite : Job.CanWrite ⟨outDir, options, inputs, b.workspace⟩) :
    let j : Job := ⟨outDir, options, inputs, b.workspace⟩
    j.Isolated b ∧
    (∀ inputs' b', inputs'.Perm inputs → Batch.begin? outDir options inputs' w = some b' →
      ∀ schedule results schedule' results', (b.run schedule).results? = some results →
        (b'.run schedule').results? = some results' →
        (b'.run schedule').workspace.Alike (b.run schedule).workspace ∧ results'.Perm results) ∧
    (∃ after, j.Ends after ∧ ∀ denyWarnings,
      (renderAll Workspace.host inputs outDir options denyWarnings).run.run w =
        (j.verdict denyWarnings, after)) ∧
    ∀ input text, w.read? input = some text → b.workspace.read? input = some text := by
  intro j
  have hisolated : j.Isolated b :=
    Job.isolated_of_progress (.begin? hbegin) hstems hapart hwrite
  refine ⟨hisolated, fun inputs' b' hperm hbegin' _ _ _ _ hresults hresults' =>
    alike_of_perm hbegin hstems hapart hwrite hperm hbegin' hresults hresults',
    hisolated.exists_renderAll hbegin, fun input text hread => ?_⟩
  obtain ⟨made, hmade, rfl⟩ := Option.map_eq_some_iff.1 hbegin
  exact Workspace.read?_of_makeDirectory? hmade hread

end Command

/-- Documents of which one has a problem, one breaks off, one describes nothing and one is
    missing. -/
def assorted : Workspace :=
  .ofFiles [("a.json", "\x7b\"links\":[\x7b\"from\":\"x\",\"to\":\"\"\x7d]\x7d"),
    ("b.json", "\x7b"), ("c.json", "[]"), ("d.json", "\x7b\"device\":\"x\"\x7d")]

theorem isolated_assorted : ∃ b,
    Batch.begin? "out" .standard ["a.json", "b.json", "c.json", "d.json", "e.json"] assorted =
      some b ∧
    let j : Job := ⟨"out", .standard, ["a.json", "b.json", "c.json", "d.json", "e.json"],
      b.workspace⟩
    (j.inputs.map stemOf).Nodup ∧ j.KeepsApart ∧ j.CanWrite ∧
    j.Isolated b ∧ ∃ after, j.Ends after ∧
      (renderAll Workspace.host j.inputs "out" .standard true).run.run assorted =
        (.error (.batchFailed 3 5), after) := by
  have hfacts : ((Batch.begin? "out" .standard
      ["a.json", "b.json", "c.json", "d.json", "e.json"] assorted).map fun b =>
      let j : Job := ⟨"out", .standard, ["a.json", "b.json", "c.json", "d.json", "e.json"],
        b.workspace⟩
      (decide (j.inputs.map stemOf).Nodup, decide j.KeepsApart, decide j.CanWrite,
        decide (j.verdict true = .error (.batchFailed 3 5)))) =
      some (true, true, true, true) := by
    decide +kernel
  cases hb : Batch.begin? "out" .standard
      ["a.json", "b.json", "c.json", "d.json", "e.json"] assorted with
  | none => simp [hb] at hfacts
  | some b =>
    simp only [hb, Option.map_some, Option.some.injEq, Prod.mk.injEq, decide_eq_true_eq] at hfacts
    obtain ⟨hstems, hapart, hwrite, hverdict⟩ := hfacts
    obtain ⟨hisolated, -, ⟨after, hends, hrun⟩, -⟩ := isolated_of_batch hb hstems hapart hwrite
    exact ⟨b, rfl, hstems, hapart, hwrite, hisolated, after, hends, hverdict ▸ hrun true⟩

end InfraDiagram.CommandLine
