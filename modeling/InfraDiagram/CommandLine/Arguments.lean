import InfraDiagram.Settings

/-!
# Arguments

The command line as a command with its options. Some options belong to all commands and may stand
on either side of the command's name.

## Main definitions

- `Command`, `Request` — what the command line asks for
- `OptionSpec` — how an option is written
- `Given` — the options and operands given at one level
- `Request.parse` — the request of a command line

## Design notes

Arguments are read from left to right. A request for the version or for help ends the reading at
once; a fault before it wins. Each level, before and behind the command's name, has its own
options, and what stands behind the name counts where both give a value.
-/

namespace InfraDiagram.CommandLine

open Dot

/-- What is to be done. -/
inductive Command where
  /-- Renders one document. -/
  | render (input : String) (output idMap : Option String)
  /-- Names the kind of a document. -/
  | classify (input : String)
  /-- Renders documents into a directory. -/
  | batch (inputs : List String) (outDir : String)
  deriving DecidableEq, Repr

/-- A command with the options of all commands. -/
structure Request where
  overrides : Overrides
  denyWarnings : Bool
  command : Command
  deriving DecidableEq, Repr

/-- Why there is no request. -/
inductive Stop where
  /-- Arguments that make no sense. -/
  | usage
  | version
  | help
  deriving DecidableEq, Repr

/-- The options of the program. -/
inductive OptionName where
  | graphName
  | rankDir
  | font
  | noPorts
  | verbose
  | denyWarnings
  | output
  | idMap
  | outDir
  | version
  | help
  deriving DecidableEq, Repr

/-- How an option is written, and whether a value belongs to it. -/
structure OptionSpec where
  name : OptionName
  long : String
  short : Option Char
  takesValue : Bool
  deriving DecidableEq, Repr

def globalOptions : List OptionSpec :=
  [⟨.graphName, "graph-name", none, true⟩, ⟨.rankDir, "rankdir", none, true⟩,
   ⟨.font, "font", none, true⟩, ⟨.noPorts, "no-ports", none, false⟩,
   ⟨.verbose, "verbose", some 'v', false⟩, ⟨.denyWarnings, "deny-warnings", none, false⟩,
   ⟨.help, "help", some 'h', false⟩]

def topOptions : List OptionSpec :=
  ⟨.version, "version", some 'V', false⟩ :: globalOptions

def renderOptions : List OptionSpec :=
  ⟨.output, "output", some 'o', true⟩ :: ⟨.idMap, "id-map", none, true⟩ :: globalOptions

def batchOptions : List OptionSpec :=
  ⟨.outDir, "out-dir", none, true⟩ :: globalOptions

/-- What was given at one level. -/
structure Given where
  graphName : Option String
  rankDir : Option RankDir
  font : Option String
  noPorts : Bool
  verbosity : Nat
  denyWarnings : Bool
  output : Option String
  idMap : Option String
  outDir : Option String
  operands : List String

abbrev Parse (α : Type) := Except Stop α

namespace Given

def nothing : Given :=
  ⟨none, none, none, false, 0, false, none, none, none, []⟩

def once {α : Type} (before : Option α) (value : α) : Parse (Option α) :=
  if before.isSome then .error .usage else .ok (some value)

def onceFlag (before : Bool) : Parse Bool :=
  if before then .error .usage else .ok true

/-- A path; the empty text is none. -/
def path (value : String) : Parse String :=
  if value.isEmpty then .error .usage else .ok value

def takeFlag (g : Given) (name : OptionName) : Parse Given :=
  match name with
  | .version => .error .version
  | .help => .error .help
  | .noPorts => do return { g with noPorts := ← onceFlag g.noPorts }
  | .denyWarnings => do return { g with denyWarnings := ← onceFlag g.denyWarnings }
  | .verbose => .ok { g with verbosity := g.verbosity + 1 }
  | _ => .error .usage

def takeValue (g : Given) (name : OptionName) (value : String) : Parse Given :=
  match name with
  | .graphName => do return { g with graphName := ← once g.graphName value }
  | .font => do return { g with font := ← once g.font value }
  | .rankDir =>
    match RankDir.parse value with
    | .ok d => do return { g with rankDir := ← once g.rankDir d }
    | .error _ => .error .usage
  | .output => do return { g with output := ← once g.output (← path value) }
  | .idMap => do return { g with idMap := ← once g.idMap (← path value) }
  | .outDir => do return { g with outDir := ← once g.outDir (← path value) }
  | _ => .error .usage

end Given

/-- How an argument is to be understood. -/
inductive Shape where
  /-- The two dashes behind which everything is an operand. -/
  | separator
  /-- A long option, perhaps with a value behind an equals sign. -/
  | long (name : String) (value : Option String)
  /-- A group of short options. -/
  | short (letters : List Char)
  | operand (text : String)
  deriving DecidableEq, Repr

def splitLong (cs : List Char) : Shape :=
  let name := String.ofList (cs.takeWhile (· != '='))
  match cs.dropWhile (· != '=') with
  | _ :: value => .long name (some (String.ofList value))
  | [] => .long name none

/-- The shape of an argument; a single dash is an operand. -/
def Shape.of (arg : String) : Shape :=
  match arg.toList with
  | ['-', '-'] => .separator
  | '-' :: '-' :: cs => splitLong cs
  | '-' :: c :: cs => .short (c :: cs)
  | _ => .operand arg

/-- Whether an argument can be the value of the option before it. -/
def canBeValue (arg : String) : Bool :=
  match Shape.of arg with
  | .operand _ => true
  | _ => false

/-- What a group of short options leaves open: nothing, or the value of its last option. -/
abbrev ShortGroup := Given × Option OptionName

/-- Takes a group of short options. The rest of the group behind an option with a value is that
    value, an equals sign between them aside. -/
def takeShort (specs : List OptionSpec) (g : Given) : List Char → Parse ShortGroup
  | [] => .ok (g, none)
  | c :: rest =>
    match specs.find? fun s => s.short == some c with
    | none => .error .usage
    | some spec =>
      if spec.takesValue then
        match rest with
        | [] => .ok (g, some spec.name)
        | '=' :: value => do return (← g.takeValue spec.name (String.ofList value), none)
        | value => do return (← g.takeValue spec.name (String.ofList value), none)
      else do takeShort specs (← g.takeFlag spec.name) rest

/-- Takes a long option; its value may be left open. -/
def takeLong (specs : List OptionSpec) (g : Given) (name : String) (value : Option String) :
    Parse ShortGroup :=
  match specs.find? fun s => s.long == name with
  | none => .error .usage
  | some spec =>
    match spec.takesValue, value with
    | true, some v => do return (← g.takeValue spec.name v, none)
    | true, none => .ok (g, some spec.name)
    | false, none => do return (← g.takeFlag spec.name, none)
    | false, some _ => .error .usage

def takeOperand (limit : Option Nat) (g : Given) (text : String) : Parse Given :=
  if text.isEmpty || limit.any (· ≤ g.operands.length) then .error .usage
  else .ok { g with operands := g.operands ++ [text] }

def readLevel (specs : List OptionSpec) (limit : Option Nat) (g : Given) :
    List String → Parse Given
  | [] => .ok g
  | arg :: rest =>
    match Shape.of arg with
    | .separator => rest.foldlM (takeOperand limit) g
    | .operand text => do readLevel specs limit (← takeOperand limit g text) rest
    | .long name value => do
      match ← takeLong specs g name value, rest with
      | (g, none), rest => readLevel specs limit g rest
      | (g, some option), v :: rest =>
        if canBeValue v then readLevel specs limit (← g.takeValue option v) rest
        else throw .usage
      | (_, some _), [] => throw .usage
    | .short letters => do
      match ← takeShort specs g letters, rest with
      | (g, none), rest => readLevel specs limit g rest
      | (g, some option), v :: rest =>
        if canBeValue v then readLevel specs limit (← g.takeValue option v) rest
        else throw .usage
      | (_, some _), [] => throw .usage

/-- Reads the arguments before a command's name; gives the name and what stands behind it. -/
def readTop (g : Given) : List String → Parse (Given × String × List String)
  | [] => .error .usage
  | arg :: rest =>
    match Shape.of arg with
    | .separator => .error .usage
    | .operand text => .ok (g, text, rest)
    | .long name value => do
      match ← takeLong topOptions g name value, rest with
      | (g, none), rest => readTop g rest
      | (g, some option), v :: rest =>
        if canBeValue v then readTop (← g.takeValue option v) rest else throw .usage
      | (_, some _), [] => throw .usage
    | .short letters => do
      match ← takeShort topOptions g letters, rest with
      | (g, none), rest => readTop g rest
      | (g, some option), v :: rest =>
        if canBeValue v then readTop (← g.takeValue option v) rest else throw .usage
      | (_, some _), [] => throw .usage

/-- The options of all commands, given before and behind the command's name. -/
def overridesOf (top inner : Given) : Overrides :=
  { graphName := inner.graphName.or top.graphName
    rankDir := inner.rankDir.or top.rankDir
    font := inner.font.or top.font
    noPorts := inner.noPorts || top.noPorts
    verbosity := if inner.verbosity = 0 then top.verbosity else inner.verbosity }

def onlyOperand (g : Given) : Parse String :=
  match g.operands with
  | [input] => .ok input
  | _ => .error .usage

/-- The directory for many documents: given, or named by the environment. -/
def outDirOf (g : Given) (env : Environment) : Parse String :=
  match g.outDir.or (List.lookup "TOPODOT_OUT_DIR" env) with
  | some dir => Given.path dir
  | none => .error .usage

def commandNames : List String :=
  ["render", "classify", "batch", "help"]

/-- What asking for help about something comes to: only commands have help, one at a time. -/
def helpAbout : List String → Stop
  | [] => .help
  | [name] => if commandNames.contains name then .help else .usage
  | _ => .usage

def commandOf (name : String) (args : List String) (env : Environment) :
    Parse (Given × Command) := do
  match name with
  | "render" =>
    let g ← readLevel renderOptions (some 1) .nothing args
    return (g, .render (← onlyOperand g) g.output g.idMap)
  | "classify" =>
    let g ← readLevel globalOptions (some 1) .nothing args
    return (g, .classify (← onlyOperand g))
  | "batch" =>
    let g ← readLevel batchOptions none .nothing args
    if g.operands.isEmpty then throw .usage
    return (g, .batch g.operands (← outDirOf g env))
  | "help" => throw (helpAbout args)
  | _ => throw .usage

def Request.parse (args : List String) (env : Environment) : Parse Request := do
  let (top, name, rest) ← readTop .nothing args
  let (inner, command) ← commandOf name rest env
  return ⟨overridesOf top inner, inner.denyWarnings || top.denyWarnings, command⟩

end InfraDiagram.CommandLine
