import InfraDiagram.CommandLine.Arguments
import InfraDiagram.CommandLine.Host
import InfraDiagram.Document.Decode
import InfraDiagram.Document.Json.Printer
import InfraDiagram.Generate

/-!
# Running commands

The three commands of the program on any host, and the report that goes with a diagram.

## Main definitions

- `Failure` — why a command fails
- `Report.text` — the node map and the problems of a diagram as JSON
- `renderFile`, `classifyInput`, `renderAll` — the commands
- `Outcome`, `run` — a whole run from its arguments to its exit code

## Design notes

Many documents are rendered one after the other, each on its own: a document that fails is counted
and leaves the others alone. Whatever was written before a failure stays written.
-/

namespace InfraDiagram.CommandLine

open Dot

/-- Why a command fails. -/
inductive Failure where
  | read (path : String)
  | write (path : String)
  | decode (error : DecodeError)
  | generate (error : StructureError)
  | settings (error : SettingError)
  /-- Problems were reported and are not allowed. -/
  | deniedWarnings (count : Nat)
  /-- Some documents of many failed. -/
  | batchFailed (failed total : Nat)
  deriving DecidableEq, Repr

def Failure.message : Failure → String
  | .read path => "failed to read " ++ path
  | .write path => "failed to write " ++ path
  | .decode (.json e) => "invalid JSON: " ++ e.message
  | .decode (.yaml _) => "invalid YAML"
  | .generate e => e.message
  | .settings e => e.message
  | .deniedWarnings count =>
    toString count ++ " diagnostic(s) reported and --deny-warnings is set"
  | .batchFailed failed total =>
    toString failed ++ " of " ++ toString total ++ " document(s) failed to render"

/-- The report of a diagram: its kind, its node map and its problems. -/
def Generated.report (g : Generated) : Value :=
  .mapping [("kind", .text g.kind.name), ("nodeIds", g.nodeMap.toValue),
    ("diagnostics", .list (g.diagnostics.map Diagnostic.toValue))]

def Generated.reportText (g : Generated) : String :=
  Json.pretty (Generated.report g) ++ "\n"

section Commands

variable {m : Type → Type} [Monad m] (host : Host m)

abbrev Steps (m : Type → Type) := ExceptT Failure m

def load (path : String) : Steps m Value := do
  let some text ← host.readFile path | throw (.read path)
  match decode text (Format.ofPath path) with
  | .ok doc => return doc
  | .error e => throw (.decode e)

def generateFrom (path : String) (options : RenderOptions) : Steps m Generated := do
  match generate (← load host path) options with
  | .ok g => return g
  | .error e => throw (.generate e)

def write (path text : String) : Steps m Unit := do
  if !(← host.writeFile path text) then throw (.write path)

/-- Fails if there are problems and they are not allowed. -/
def checkWarnings (count : Nat) (denyWarnings : Bool) : Steps m Unit := do
  if denyWarnings && 0 < count then throw (.deniedWarnings count)

/-- Renders a document to a file or to the output, and its report to a file. -/
def renderFile (input : String) (output idMap : Option String) (options : RenderOptions)
    (denyWarnings : Bool) : Steps m Unit := do
  let g ← generateFrom host input options
  match output with
  | some path => write host path g.dot
  | none => host.print g.dot
  if let some path := idMap then write host path (Generated.reportText g)
  checkWarnings g.diagnostics.length denyWarnings

def classifyInput (input : String) : Steps m Unit := do
  let doc ← load host input
  host.print ((classify doc).name ++ "\n")

def stemOf (input : String) : String :=
  ((fileName? input).map fileStem).getD "topology"

/-- Renders a document into a directory; gives the number of its problems. -/
def renderInto (outDir : String) (options : RenderOptions) (input : String) : Steps m Nat := do
  let g ← generateFrom host input options
  write host (outDir ++ "/" ++ stemOf input ++ ".dot") g.dot
  write host (outDir ++ "/" ++ stemOf input ++ ".ids.json") (Generated.reportText g)
  return g.diagnostics.length

/-- How many documents failed, and how many problems the others have. -/
structure Tally where
  failed : Nat
  warnings : Nat
  deriving DecidableEq, Repr, Inhabited

def Tally.add (t : Tally) : Except Failure Nat → Tally
  | .ok count => { t with warnings := t.warnings + count }
  | .error _ => { t with failed := t.failed + 1 }

/-- Renders documents into a directory, each on its own, and counts how they went. -/
def renderEach (outDir : String) (options : RenderOptions) (inputs : List String) : m Tally :=
  inputs.foldlM
    (fun tally input => do return tally.add (← (renderInto host outDir options input).run))
    ⟨0, 0⟩

/-- Renders documents into a directory that is made if it does not exist. -/
def renderAll (inputs : List String) (outDir : String) (options : RenderOptions)
    (denyWarnings : Bool) : Steps m Unit := do
  if !(← host.makeDirectory outDir) then throw (.write outDir)
  let tally ← ExceptT.lift (renderEach host outDir options inputs)
  if 0 < tally.failed then throw (.batchFailed tally.failed inputs.length)
  checkWarnings tally.warnings denyWarnings

def Command.run (command : Command) (options : RenderOptions) (denyWarnings : Bool) :
    Steps m Unit :=
  match command with
  | .render input output idMap => renderFile host input output idMap options denyWarnings
  | .classify input => classifyInput host input
  | .batch inputs outDir => renderAll host inputs outDir options denyWarnings

/-- How a run ends. -/
inductive Outcome where
  | done
  | failed (failure : Failure)
  /-- The arguments make no sense. -/
  | usage
  deriving DecidableEq, Repr

def Outcome.exitCode : Outcome → Nat
  | .done => 0
  | .failed _ => 1
  | .usage => 2

def versionLine : String := "topodot 0.1.0\n"

def usageText : String :=
  "Usage: topodot [OPTIONS] <COMMAND>\n\n" ++
  "Commands:\n" ++
  "  render <INPUT> [-o <OUTPUT>] [--id-map <FILE>]\n" ++
  "  classify <INPUT>\n" ++
  "  batch <INPUTS>... --out-dir <DIR>\n\n" ++
  "Options:\n" ++
  "  --graph-name <NAME>  --rankdir <TB|LR|BT|RL>  --font <FONT>\n" ++
  "  --no-ports  --deny-warnings  -v, --verbose  -h, --help  -V, --version\n"

/-- Carries out a request. The environment is looked at before any document is. -/
def Request.run (request : Request) (env : Environment) : Steps m Unit := do
  match Settings.ofEnvironment env with
  | .error e => throw (.settings e)
  | .ok settings =>
    let options := (settings.override request.overrides).renderOptions
    request.command.run host options request.denyWarnings

def run (args : List String) (env : Environment) : m Outcome := do
  match Request.parse args env with
  | .error .usage => return .usage
  | .error .version =>
    host.print versionLine
    return .done
  | .error .help =>
    host.print usageText
    return .done
  | .ok request =>
    match ← (request.run host env).run with
    | .ok () => return .done
    | .error f => return .failed f

end Commands

end InfraDiagram.CommandLine
