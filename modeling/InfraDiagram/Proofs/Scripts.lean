import InfraDiagram.CommandLine.Run
import InfraDiagram.CommandLine.Workspace

/-!
# Commands as scripts

The requests that rendering a document makes, on any host. On a host that does nothing but write
down what it is asked, the command becomes a script, which can be carried out on any other host, at
once or request by request, so that several commands can take turns.

## Main definitions

- `drawn` — what comes of the text of a document
- `Script` — a command as the tree of its requests
- `Script.host` — the host that makes scripts
- `Script.runOn`, `Script.step` — a script carried out to its end, or by one request

## Main statements

- `run_renderInto` — the requests of a document that is rendered into a directory
- `run_renderFile` — the requests of a document that is rendered to two files
- `Script.runOn_renderInto` — a script does what the command does
-/

namespace InfraDiagram.CommandLine

open Dot

-- ════════════════════════════════════════════════════════════════════════
-- Requests of a document
-- ════════════════════════════════════════════════════════════════════════

/-- The diagram that the text of an input describes, or why there is none. -/
def drawn (options : RenderOptions) (input : String) (text? : Option String) :
    Except Failure Generated :=
  match text? with
  | none => .error (.read input)
  | some text =>
    match decode text (Format.ofPath input) with
    | .error e => .error (.decode e)
    | .ok doc => (generate doc options).mapError .generate

/-- Something that a batch writes for each of its documents. -/
structure Artifact where
  suffix : String
  text : Generated → String

namespace Artifact

def program : Artifact := ⟨".dot", Generated.dot⟩

def report : Artifact := ⟨".ids.json", Generated.reportText⟩

/-- Where the artifact of an input goes. -/
def path (a : Artifact) (outDir input : String) : String :=
  outDir ++ "/" ++ stemOf input ++ a.suffix

end Artifact

section Requests

variable {m : Type → Type} [Monad m] (h : Host m)

/-- The last request of a document: its report is written. -/
def writeReport (outDir input : String) (g : Generated) : m (Except Failure Nat) := do
  if ← h.writeFile (Artifact.report.path outDir input) (Artifact.report.text g) then
    return .ok g.diagnostics.length
  else return .error (.write (Artifact.report.path outDir input))

/-- The requests of a document that was read: its program is written, then its report. -/
def writeArtifacts (outDir input : String) (g : Generated) : m (Except Failure Nat) := do
  if ← h.writeFile (Artifact.program.path outDir input) (Artifact.program.text g) then
    writeReport h outDir input g
  else return .error (.write (Artifact.program.path outDir input))

theorem run_checkWarnings (count : Nat) (denyWarnings : Bool) :
    (checkWarnings count denyWarnings : Steps m Unit).run =
      pure (if denyWarnings && 0 < count then .error (.deniedWarnings count) else .ok ()) := by
  unfold checkWarnings
  split <;> rfl

variable [LawfulMonad m]

theorem run_generateFrom (input : String) (options : RenderOptions) :
    (generateFrom h input options).run =
      h.readFile input >>= fun text? => pure (drawn options input text?) := by
  have hload : (load h input).run = h.readFile input >>= fun text? =>
      match text? with
      | none => pure (.error (.read input))
      | some text =>
        match decode text (Format.ofPath input) with
        | .error e => pure (.error (.decode e))
        | .ok doc => pure (.ok doc) := by
    change (ExceptT.lift (h.readFile input) >>= _).run = _
    rw [ExceptT.run_bind_lift]
    congr 1
    funext text?
    cases text? with
    | none => rfl
    | some text => cases hdecode : decode text (Format.ofPath input) <;> simp [hdecode]
  rw [generateFrom, ExceptT.run_bind, hload, bind_assoc]
  congr 1
  funext text?
  cases text? with
  | none => simp [drawn]
  | some text =>
    cases hdecode : decode text (Format.ofPath input) with
    | error e => simp [drawn, hdecode]
    | ok doc =>
      have hdrawn : drawn options input (some text) =
          (generate doc options).mapError .generate := by
        simp only [drawn, hdecode]
      rw [hdrawn]
      cases hdraw : generate doc options <;> simp [hdecode, hdraw] <;> rfl

theorem run_write (path text : String) :
    (write h path text).run = h.writeFile path text >>= fun written =>
      pure (if written then .ok () else .error (.write path)) := by
  change (ExceptT.lift (h.writeFile path text) >>= _).run = _
  rw [ExceptT.run_bind_lift]
  congr 1
  funext written
  cases written <;> rfl

theorem run_write_bind {α : Type} (path text : String) (f : Unit → Steps m α) :
    (write h path text >>= f).run = h.writeFile path text >>= fun written =>
      if written then (f ()).run else pure (.error (.write path)) := by
  rw [ExceptT.run_bind, run_write, bind_assoc]
  congr 1
  funext written
  rw [pure_bind]
  cases written <;> rfl

/-- A document is read, and if it can be drawn, its program and its report are written. -/
theorem run_renderInto (outDir : String) (options : RenderOptions) (input : String) :
    (renderInto h outDir options input).run = h.readFile input >>= fun text? =>
      match drawn options input text? with
      | .error e => pure (.error e)
      | .ok g => writeArtifacts h outDir input g := by
  rw [renderInto, ExceptT.run_bind, run_generateFrom, bind_assoc]
  congr 1
  funext text?
  rw [pure_bind]
  cases drawn options input text? with
  | error e => rfl
  | ok g =>
    dsimp only
    rw [run_write_bind, writeArtifacts]
    congr 1
    funext written
    rw [run_write_bind]
    rfl

/-- A document is read, and if it can be drawn, it is rendered to two files. -/
theorem run_renderFile (input output idMap : String) (options : RenderOptions)
    (denyWarnings : Bool) :
    (renderFile h input (some output) (some idMap) options denyWarnings).run =
      h.readFile input >>= fun text? =>
        match drawn options input text? with
        | .error e => pure (.error e)
        | .ok g => h.writeFile output g.dot >>= fun written =>
          if written then h.writeFile idMap (Generated.reportText g) >>= fun written =>
            if written then
              pure (if denyWarnings && 0 < g.diagnostics.length then
                .error (.deniedWarnings g.diagnostics.length) else .ok ())
            else pure (.error (.write idMap))
          else pure (.error (.write output)) := by
  rw [renderFile, ExceptT.run_bind, run_generateFrom, bind_assoc]
  congr 1
  funext text?
  rw [pure_bind]
  cases drawn options input text? with
  | error e => rfl
  | ok g =>
    dsimp only
    rw [run_write_bind]
    congr 1
    funext written
    rw [run_write_bind, run_checkWarnings]

end Requests

-- ════════════════════════════════════════════════════════════════════════
-- Scripts
-- ════════════════════════════════════════════════════════════════════════

/-- A command as the tree of its requests, with what it does about each answer. -/
inductive Script (α : Type) : Type where
  | done (result : α)
  | readFile (path : String) (next : Option String → Script α)
  | writeFile (path text : String) (next : Bool → Script α)
  | makeDirectory (path : String) (next : Bool → Script α)
  | print (text : String) (next : Unit → Script α)

namespace Script

variable {α β : Type}

def bind : Script α → (α → Script β) → Script β
  | done a, f => f a
  | readFile path next, f => readFile path fun answer => (next answer).bind f
  | writeFile path text next, f => writeFile path text fun answer => (next answer).bind f
  | makeDirectory path next, f => makeDirectory path fun answer => (next answer).bind f
  | print text next, f => print text fun answer => (next answer).bind f

instance : Monad Script where
  pure := done
  bind := bind

theorem bind_done (s : Script α) : s.bind done = s := by
  induction s with
  | done a => rfl
  | readFile path next ih => exact congrArg (readFile path) (funext ih)
  | writeFile path text next ih => exact congrArg (writeFile path text) (funext ih)
  | makeDirectory path next ih => exact congrArg (makeDirectory path) (funext ih)
  | print text next ih => exact congrArg (print text) (funext ih)

theorem bind_bind {γ : Type} (s : Script α) (f : α → Script β) (g : β → Script γ) :
    (s.bind f).bind g = s.bind fun a => (f a).bind g := by
  induction s with
  | done a => rfl
  | readFile path next ih => exact congrArg (readFile path) (funext ih)
  | writeFile path text next ih => exact congrArg (writeFile path text) (funext ih)
  | makeDirectory path next ih => exact congrArg (makeDirectory path) (funext ih)
  | print text next ih => exact congrArg (print text) (funext ih)

instance : LawfulMonad Script :=
  .mk' Script bind_done (fun _ _ => rfl) bind_bind

/-- The host that writes down what it is asked. -/
def host : Host Script where
  readFile path := readFile path done
  writeFile path text := writeFile path text done
  makeDirectory path := makeDirectory path done
  print text := print text done

/-- The result of a script that has nothing left to ask. -/
def result? : Script α → Option α
  | done a => some a
  | _ => none

section Hosts

variable {m : Type → Type} [Monad m] (h : Host m)

/-- Carries out a script on a host. -/
def runOn : Script α → m α
  | done a => pure a
  | readFile path next => do runOn (next (← h.readFile path))
  | writeFile path text next => do runOn (next (← h.writeFile path text))
  | makeDirectory path next => do runOn (next (← h.makeDirectory path))
  | print text next => do runOn (next (← h.print text))

/-- Carries out the first request of a script; gives what is left of it. -/
def step : Script α → m (Script α)
  | done a => return done a
  | readFile path next => do return next (← h.readFile path)
  | writeFile path text next => do return next (← h.writeFile path text)
  | makeDirectory path next => do return next (← h.makeDirectory path)
  | print text next => do return next (← h.print text)

variable [LawfulMonad m]

theorem runOn_bind (s : Script α) (f : α → Script β) :
    runOn h (s >>= f) = runOn h s >>= fun a => runOn h (f a) := by
  change runOn h (s.bind f) = _
  induction s with
  | done a => simp [Script.bind, runOn]
  | readFile path next ih => simp [Script.bind, runOn, ih]
  | writeFile path text next ih => simp [Script.bind, runOn, ih]
  | makeDirectory path next ih => simp [Script.bind, runOn, ih]
  | print text next ih => simp [Script.bind, runOn, ih]

theorem runOn_readFile (path : String) : runOn h (host.readFile path) = h.readFile path := by
  simp [host, runOn]

theorem runOn_writeFile (path text : String) :
    runOn h (host.writeFile path text) = h.writeFile path text := by
  simp [host, runOn]

theorem runOn_writeReport (outDir input : String) (g : Generated) :
    runOn h (writeReport host outDir input g) = writeReport h outDir input g := by
  rw [writeReport, runOn_bind, runOn_writeFile, writeReport]
  congr 1
  funext written
  cases written <;> rfl

theorem runOn_writeArtifacts (outDir input : String) (g : Generated) :
    runOn h (writeArtifacts host outDir input g) = writeArtifacts h outDir input g := by
  rw [writeArtifacts, runOn_bind, runOn_writeFile, writeArtifacts]
  congr 1
  funext written
  cases written with
  | false => rfl
  | true => exact runOn_writeReport h outDir input g

/-- The script of a document does what the command does. -/
theorem runOn_renderInto (outDir : String) (options : RenderOptions) (input : String) :
    runOn h (renderInto host outDir options input).run =
      (renderInto h outDir options input).run := by
  rw [run_renderInto, runOn_bind, runOn_readFile, run_renderInto]
  congr 1
  funext text?
  cases drawn options input text? with
  | error e => rfl
  | ok g => exact runOn_writeArtifacts h outDir input g

end Hosts

end Script

end InfraDiagram.CommandLine
