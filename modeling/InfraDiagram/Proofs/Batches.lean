import InfraDiagram.Proofs.Places

/-!
# Batches

Documents that are rendered into one directory at the same time take turns in any order. The command
that renders one after the other is one such order.

## Main definitions

- `Batch`, `Batch.begin?` — documents in the course of being rendered, and before the first turn
- `Batch.step`, `Batch.run` — one turn, and all turns of a schedule
- `Batch.outcome?` — how a batch ends once all documents are done

## Main statements

- `Batch.exists_turns` — a document that has all the turns does what the command does
- `Batch.renderAll_eq` — the command takes turns in an order of its own

## Design notes

A turn is one request of one document, and a schedule is a list of turns. A turn of a document that
is done, or that does not exist, does nothing, so that every list of numbers is a schedule.
-/

namespace InfraDiagram.CommandLine

open Dot

-- ════════════════════════════════════════════════════════════════════════
-- Turns
-- ════════════════════════════════════════════════════════════════════════

/-- Documents that are rendered at the same time: what is left to do for each input, and the
    workspace that they share. -/
structure Batch where
  tasks : List (String × Script (Except Failure Nat))
  workspace : Workspace

namespace Batch

def task (outDir : String) (options : RenderOptions) (input : String) :
    String × Script (Except Failure Nat) :=
  (input, (renderInto Script.host outDir options input).run)

/-- A batch whose directory is made, before the first turn; none if it cannot be made. -/
def begin? (outDir : String) (options : RenderOptions) (inputs : List String) (w : Workspace) :
    Option Batch :=
  (w.makeDirectory? outDir).map fun made => ⟨inputs.map (task outDir options), made⟩

/-- The next request of one document is carried out. -/
def step (b : Batch) (i : Nat) : Batch :=
  match b.tasks[i]? with
  | none => b
  | some (input, script) =>
    let turn := (script.step Workspace.host).run b.workspace
    ⟨b.tasks.set i (input, turn.1), turn.2⟩

def run (b : Batch) (schedule : List Nat) : Batch :=
  schedule.foldl step b

/-- The results of all documents, once they are all done. -/
def results? (b : Batch) : Option (List (Except Failure Nat)) :=
  b.tasks.mapM fun task => task.2.result?

/-- How a batch ends: documents that failed come first, then problems that are not allowed. -/
def verdict (tally : Tally) (total : Nat) (denyWarnings : Bool) : Except Failure Unit :=
  if 0 < tally.failed then .error (.batchFailed tally.failed total)
  else if denyWarnings && 0 < tally.warnings then .error (.deniedWarnings tally.warnings)
  else .ok ()

/-- The end of a batch, once all documents are done. -/
def outcome? (b : Batch) (denyWarnings : Bool) : Option (Except Failure Unit) :=
  b.results?.map fun results =>
    verdict (results.foldl Tally.add ⟨0, 0⟩) results.length denyWarnings

-- ════════════════════════════════════════════════════════════════════════
-- One document after the other
-- ════════════════════════════════════════════════════════════════════════

/-- A turn of the document behind the first ones. -/
theorem step_length (first rest : List (String × Script (Except Failure Nat))) (input : String)
    (script : Script (Except Failure Nat)) (w : Workspace) :
    (⟨first ++ (input, script) :: rest, w⟩ : Batch).step first.length =
      ⟨first ++ (input, ((script.step Workspace.host).run w).1) :: rest,
        ((script.step Workspace.host).run w).2⟩ := by
  simp [step]

/-- A document that has all the turns does what the command does. -/
theorem exists_turns (script : Script (Except Failure Nat))
    (first rest : List (String × Script (Except Failure Nat))) (input : String) (w : Workspace) :
    ∃ schedule, (⟨first ++ (input, script) :: rest, w⟩ : Batch).run schedule =
      ⟨first ++ (input, .done ((script.runOn Workspace.host).run w).1) :: rest,
        ((script.runOn Workspace.host).run w).2⟩ := by
  induction script generalizing w with
  | done result => exact ⟨[], rfl⟩
  | readFile path next ih =>
    obtain ⟨schedule, h⟩ := ih _ ((Workspace.host.readFile path).run w).2
    exact ⟨first.length :: schedule, (congrArg (run · schedule) (step_length ..)).trans h⟩
  | writeFile path text next ih =>
    obtain ⟨schedule, h⟩ := ih _ ((Workspace.host.writeFile path text).run w).2
    exact ⟨first.length :: schedule, (congrArg (run · schedule) (step_length ..)).trans h⟩
  | makeDirectory path next ih =>
    obtain ⟨schedule, h⟩ := ih _ ((Workspace.host.makeDirectory path).run w).2
    exact ⟨first.length :: schedule, (congrArg (run · schedule) (step_length ..)).trans h⟩
  | print text next ih =>
    obtain ⟨schedule, h⟩ := ih _ ((Workspace.host.print text).run w).2
    exact ⟨first.length :: schedule, (congrArg (run · schedule) (step_length ..)).trans h⟩

theorem run_bind_eq {σ α β : Type} {x : StateM σ α} {s s' : σ} {a : α} (h : x.run s = (a, s'))
    (f : α → StateM σ β) : (x >>= f).run s = (f a).run s' := by
  rw [StateT.run_bind, h]
  rfl

/-- All documents of a batch, one after the other, behind some that are there already. -/
theorem exists_inOrder (outDir : String) (options : RenderOptions) (inputs : List String)
    (first : List (String × Script (Except Failure Nat))) (w : Workspace) :
    ∃ schedule results w', results.length = inputs.length ∧
      (⟨first ++ inputs.map (task outDir options), w⟩ : Batch).run schedule =
        ⟨first ++ (inputs.zip results).map fun x => (x.1, .done x.2), w'⟩ ∧
      ∀ tally, (inputs.foldlM
        (fun tally input => do
          return tally.add (← (renderInto Workspace.host outDir options input).run))
        tally : StateM Workspace Tally).run w = (results.foldl Tally.add tally, w') := by
  induction inputs generalizing first w with
  | nil => exact ⟨[], [], w, rfl, rfl, fun _ => rfl⟩
  | cons input inputs ih =>
    obtain ⟨turns, hturns⟩ := exists_turns (renderInto Script.host outDir options input).run first
      (inputs.map (task outDir options)) input w
    rw [Script.runOn_renderInto] at hturns
    generalize hdone : ((renderInto Workspace.host outDir options input).run).run w = done at hturns
    obtain ⟨schedule, results, w', hlength, hrun, hfold⟩ :=
      ih (first ++ [(input, .done done.1)]) done.2
    refine ⟨turns ++ schedule, done.1 :: results, w', ?_, ?_, fun tally => ?_⟩
    · simp [hlength]
    · have hsplit : (⟨first ++ (input :: inputs).map (task outDir options), w⟩ : Batch).run
          (turns ++ schedule) = (⟨first ++ [(input, .done done.1)] ++
            inputs.map (task outDir options), done.2⟩ : Batch).run schedule := by
        rw [List.append_assoc, List.singleton_append, ← hturns]
        exact List.foldl_append
      rw [hsplit, hrun]
      simp
    · rw [List.foldl_cons, ← hfold, List.foldlM_cons, bind_assoc, run_bind_eq hdone, pure_bind]

theorem results?_done {inputs : List String} {results : List (Except Failure Nat)}
    (h : results.length = inputs.length) (w : Workspace) :
    (⟨(inputs.zip results).map fun x => (x.1, .done x.2), w⟩ : Batch).results? = some results := by
  induction results generalizing inputs with
  | nil => simp [results?]
  | cons result results ih =>
    obtain ⟨input, inputs, rfl⟩ := List.exists_cons_of_length_eq_add_one h.symm
    have hrest := ih (Nat.succ.inj h)
    rw [results?] at hrest ⊢
    rw [List.zip_cons_cons, List.map_cons, List.mapM_cons, hrest]
    rfl

theorem run_renderAll {m : Type → Type} [Monad m] [LawfulMonad m] (host : Host m)
    (inputs : List String) (outDir : String) (options : RenderOptions) (denyWarnings : Bool) :
    (renderAll host inputs outDir options denyWarnings).run =
      host.makeDirectory outDir >>= fun made =>
        if made then renderEach host outDir options inputs >>= fun tally =>
          pure (verdict tally inputs.length denyWarnings)
        else pure (.error (.write outDir)) := by
  change (ExceptT.lift (host.makeDirectory outDir) >>= _).run = _
  rw [ExceptT.run_bind_lift]
  congr 1
  funext made
  cases made with
  | false => simp
  | true =>
    change (ExceptT.lift (renderEach host outDir options inputs) >>= _).run = _
    rw [ExceptT.run_bind_lift, if_pos rfl]
    congr 1
    funext tally
    unfold verdict
    by_cases hfailed : 0 < tally.failed
    · simp [hfailed]
    · rw [if_neg hfailed, if_neg hfailed]
      exact run_checkWarnings tally.warnings denyWarnings

/-- The command renders one document after the other, which is one order of turns. -/
theorem renderAll_eq (inputs : List String) (outDir : String) (options : RenderOptions)
    (denyWarnings : Bool) (w : Workspace) :
    match begin? outDir options inputs w with
    | none => ((renderAll Workspace.host inputs outDir options denyWarnings).run).run w =
        (.error (.write outDir), w)
    | some b => ∃ schedule outcome, (b.run schedule).outcome? denyWarnings = some outcome ∧
        ((renderAll Workspace.host inputs outDir options denyWarnings).run).run w =
          (outcome, (b.run schedule).workspace) := by
  rw [run_renderAll, begin?]
  cases hmade : w.makeDirectory? outDir with
  | none =>
    simp [Workspace.host, Workspace.attempt, hmade]
    rfl
  | some made =>
    obtain ⟨schedule, results, w', hlength, hrun, hfold⟩ :=
      exists_inOrder outDir options inputs [] made
    rw [List.nil_append, List.nil_append] at hrun
    refine ⟨schedule, verdict (results.foldl Tally.add ⟨0, 0⟩) inputs.length denyWarnings, ?_, ?_⟩
    · dsimp only
      rw [hrun, outcome?, results?_done hlength, Option.map_some, hlength]
    · have hmake : (Workspace.host.makeDirectory outDir).run w = (true, made) := by
        simp [Workspace.host, Workspace.attempt, hmade]
        rfl
      have heach : (renderEach Workspace.host outDir options inputs).run made =
          (results.foldl Tally.add ⟨0, 0⟩, w') := hfold ⟨0, 0⟩
      rw [run_bind_eq hmake, if_pos rfl, run_bind_eq heach, hrun]
      rfl

end Batch

end InfraDiagram.CommandLine
