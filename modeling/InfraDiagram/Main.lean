import InfraDiagram.CommandLine.Run

/-!
# The program

The outer layer: the files and the output of the machine as a host, and `main`.

## Main definitions

- `CommandLine.machine` — the machine as a host
- `CommandLine.environment` — the variables that the program looks at
- `main` — one run
-/

namespace InfraDiagram.CommandLine

def optionally {α : Type} (action : IO α) : IO (Option α) := do
  match ← action.toBaseIO with
  | .ok a => return some a
  | .error _ => return none

def machine : Host IO where
  readFile path := optionally (IO.FS.readFile path)
  writeFile path text := do return (← optionally (IO.FS.writeFile path text)).isSome
  makeDirectory path := do return (← optionally (IO.FS.createDirAll path)).isSome
  print text := do
    let out ← IO.getStdout
    out.putStr text
    out.flush

def variableNames : List String :=
  ["TOPODOT_GRAPH_NAME", "TOPODOT_RANKDIR", "TOPODOT_FONT", "TOPODOT_LOG_LEVEL", "TOPODOT_OUT_DIR"]

def environment : IO Environment := do
  let values ← variableNames.mapM fun name => do
    return (← IO.getEnv name).map fun value => (name, value)
  return values.filterMap id

end InfraDiagram.CommandLine

open InfraDiagram.CommandLine

def main (args : List String) : IO UInt32 := do
  let outcome ← run machine args (← environment)
  match outcome with
  | .done => pure ()
  | .failed f => IO.eprintln ("Error: " ++ f.message)
  | .usage => IO.eprint usageText
  return outcome.exitCode.toUInt32
