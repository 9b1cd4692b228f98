import InfraDiagram.Dot.Options

/-!
# Settings

What the environment says about diagrams and logs, and how the command line overrides it.

## Main definitions

- `LogLevel` — how much is logged
- `Environment` — environment variables
- `Settings.ofEnvironment` — the settings of an environment
- `Settings.override` — settings with what the command line says
-/

namespace InfraDiagram

open Dot

/-- How much is logged. -/
inductive LogLevel where
  | off
  | error
  | warn
  | info
  | debug
  | trace
  deriving DecidableEq, Repr, Inhabited

namespace LogLevel

def word : LogLevel → String
  | .off => "off"
  | .error => "error"
  | .warn => "warn"
  | .info => "info"
  | .debug => "debug"
  | .trace => "trace"

def all : List LogLevel :=
  [.off, .error, .warn, .info, .debug, .trace]

/-- A number in decimal digits, with or without a plus sign. -/
def number? (s : String) : Option Nat :=
  let digits :=
    match s.toList with
    | '+' :: rest => rest
    | cs => cs
  if digits.isEmpty || !digits.all Text.isAsciiDigit then none
  else some (Text.natOfDigits digits)

/-- The level with a number, or with a word in any case. -/
def parse? (s : String) : Option LogLevel :=
  ((number? s).bind fun n => all[n]?).or
    (all.find? fun level => Text.eqIgnoreAsciiCase s level.word)

end LogLevel

abbrev Environment := List (String × String)

/-- A variable that holds more than white space. -/
def Environment.text? (env : Environment) (name : String) : Option String :=
  (List.lookup name env).filter fun v => !Text.isBlank v

/-- A variable whose value is not understood. -/
inductive SettingError where
  | rankDir (error : UnknownRankDir)
  | logLevel (raw : String)
  deriving DecidableEq, Repr

def SettingError.message : SettingError → String
  | .rankDir e => "config parse error: TOPODOT_RANKDIR: " ++ e.message
  | .logLevel raw => "config parse error: unknown TOPODOT_LOG_LEVEL: " ++ raw

/-- The settings of a run. -/
structure Settings where
  graphName : String
  rankDir : RankDir
  font : String
  includePorts : Bool
  logLevel : LogLevel
  deriving DecidableEq, Repr, Inhabited

/-- What the command line says. -/
structure Overrides where
  graphName : Option String
  rankDir : Option RankDir
  font : Option String
  noPorts : Bool
  /-- How often more logging was asked for. -/
  verbosity : Nat
  deriving DecidableEq, Repr, Inhabited

namespace Settings

def rankDirOf (env : Environment) : Except SettingError RankDir :=
  match env.text? "TOPODOT_RANKDIR" with
  | none => .ok RenderOptions.standard.rankDir
  | some raw => (RankDir.parse raw).mapError .rankDir

def logLevelOf (env : Environment) : Except SettingError LogLevel :=
  match env.text? "TOPODOT_LOG_LEVEL" with
  | none => .ok .info
  | some raw =>
    match LogLevel.parse? (Text.trim raw) with
    | some level => .ok level
    | none => .error (.logLevel raw)

/-- The settings of an environment; what it leaves open is standard. -/
def ofEnvironment (env : Environment) : Except SettingError Settings := do
  let rankDir ← rankDirOf env
  let logLevel ← logLevelOf env
  return {
    graphName := (env.text? "TOPODOT_GRAPH_NAME").getD RenderOptions.standard.graphName
    rankDir
    font := (env.text? "TOPODOT_FONT").getD RenderOptions.standard.font
    includePorts := true
    logLevel }

/-- A log level with more logging asked for: once for debugging, twice for everything. -/
def louder (level : LogLevel) : Nat → LogLevel
  | 0 => level
  | 1 => .debug
  | _ => .trace

/-- The settings with what the command line says. -/
def override (s : Settings) (o : Overrides) : Settings :=
  { graphName := o.graphName.getD s.graphName
    rankDir := o.rankDir.getD s.rankDir
    font := o.font.getD s.font
    includePorts := s.includePorts && !o.noPorts
    logLevel := louder s.logLevel o.verbosity }

def renderOptions (s : Settings) : RenderOptions :=
  ⟨s.graphName, s.rankDir, s.font, s.includePorts⟩

end Settings

end InfraDiagram
