/-!
# Hosts

What the commands need from the world around them: to read and write files, to make directories,
and to print.

## Main definitions

- `Host` — these four operations in a monad
-/

namespace InfraDiagram.CommandLine

/-- The world around a command. -/
structure Host (m : Type → Type) where
  /-- The text of a file, if it can be read. -/
  readFile : String → m (Option String)
  /-- Writes a file; tells whether that was possible. -/
  writeFile : String → String → m Bool
  /-- Makes a directory and those around it; tells whether it is there. -/
  makeDirectory : String → m Bool
  print : String → m Unit

end InfraDiagram.CommandLine
