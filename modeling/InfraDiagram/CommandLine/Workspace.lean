import InfraDiagram.CommandLine.Host

/-!
# Workspaces

A directory tree held as a value, in which commands can be run without touching any disk.

## Main definitions

- `Workspace` — the files and directories of a tree, and what was printed
- `Workspace.read?`, `Workspace.write?`, `Workspace.makeDirectory?` — its operations
- `Workspace.host` — the tree as a host

## Design notes

Paths are relative to the root of the tree, and no path leads out of it. A step through a
directory needs that directory, also if the next step leads back out of it.
-/

namespace InfraDiagram.CommandLine

/-- A place in the tree: names from the root on. -/
abbrev Location := List String

/-- A directory tree and the text that was printed. -/
structure Workspace where
  /-- Files in the order in which they were made. -/
  files : List (Location × String)
  /-- Directories other than the root. -/
  directories : List Location
  printed : String
  deriving DecidableEq, Repr, Inhabited

namespace Workspace

def isDirectory (w : Workspace) (l : Location) : Bool :=
  l.isEmpty || w.directories.contains l

def isFile (w : Workspace) (l : Location) : Bool :=
  (w.files.lookup l).isSome

/-- The names in a path and whether it must lead to a directory. Paths from the root of the disk
    lead nowhere. -/
def names? (path : String) : Option (List String × Bool) :=
  let parts := path.splitToList (· = '/')
  if path.isEmpty || path.toList.head? = some '/' then none
  else
    let names := parts.filter fun p => p != "" && p != "."
    let last := parts.getLast?.getD ""
    some (names, last = "" || last = "." || last = "..")

/-- One step from a directory: up, or to a name. -/
def step? (l : Location) (name : String) : Option Location :=
  if name = ".." then (if l.isEmpty then none else some l.dropLast) else some (l ++ [name])

/-- Where names lead from a directory. All places before the last must be directories. -/
def walk? (w : Workspace) (l : Location) : List String → Option Location
  | [] => some l
  | name :: rest =>
    if w.isDirectory l then (step? l name).bind fun next => w.walk? next rest else none

/-- Where a path leads if it may lead to a file. -/
def filePlace? (w : Workspace) (path : String) : Option Location := do
  let (names, directory) ← names? path
  if directory then none else w.walk? [] names

def read? (w : Workspace) (path : String) : Option String :=
  (w.filePlace? path).bind fun l => w.files.lookup l

def setFile (l : Location) (text : String) : List (Location × String) → List (Location × String)
  | [] => [(l, text)]
  | (k, t) :: rest => if k = l then (k, text) :: rest else (k, t) :: setFile l text rest

/-- The tree with a file written; the directory around the file must be there. -/
def write? (w : Workspace) (path text : String) : Option Workspace := do
  let l ← w.filePlace? path
  if w.isDirectory l || !w.isDirectory l.dropLast then none
  else some { w with files := setFile l text w.files }

def makeAlong (w : Workspace) (l : Location) : List String → Option Workspace
  | [] => some w
  | name :: rest =>
    match step? l name with
    | none => none
    | some next =>
      if w.isFile next then none
      else if w.isDirectory next then w.makeAlong next rest
      else { w with directories := w.directories ++ [next] }.makeAlong next rest

def endsInDot (path : String) : Bool :=
  ((path.splitToList (· = '/')).filter (· != "")).getLast? = some "."

/-- The tree with a directory and those around it made. A path that ends in a dot is about a
    directory that is there already. -/
def makeDirectory? (w : Workspace) (path : String) : Option Workspace := do
  let (names, _) ← names? path
  if endsInDot path then
    if w.isDirectory (← w.walk? [] names) then return w else none
  else w.makeAlong [] names

def addFile (w : Workspace) (path text : String) : Workspace :=
  let names := (path.splitToList (· = '/')).filter fun p => p != "" && p != "."
  let around := (List.range names.length).tail.map names.take
  { w with
    directories := w.directories ++ around.filter fun l => !w.directories.contains l
    files := setFile names text w.files }

def ofFiles (files : List (String × String)) : Workspace :=
  files.foldl (fun w (path, text) => w.addFile path text) ⟨[], [], ""⟩

def pathOf (l : Location) : String :=
  "/".intercalate l

/-- The files that are new or have another text than before, by path. -/
def changedSince (w before : Workspace) : List (String × String) :=
  (w.files.filter fun (l, text) => before.files.lookup l != some text).map fun (l, text) =>
    (pathOf l, text)

def attempt (change : Workspace → Option Workspace) : StateM Workspace Bool := do
  match change (← get) with
  | some w =>
    set w
    return true
  | none => return false

def host : Host (StateM Workspace) where
  readFile path := do return (← get).read? path
  writeFile path text := attempt fun w => w.write? path text
  makeDirectory path := attempt fun w => w.makeDirectory? path
  print text := modify fun w => { w with printed := w.printed ++ text }

end Workspace

end InfraDiagram.CommandLine
