import InfraDiagram.Document.Yaml.Fault
import InfraDiagram.Number.Binary64
import InfraDiagram.Text.CharClass

/-!
# Interpreting scalars

What a text means when it stands without quotes: nothing, a truth value, a number, or itself.

## Main definitions

- `Yaml.Number` — integers, finite fractions, infinities and not-a-number
- `Yaml.integer`, `Yaml.fraction?` — texts as numbers
- `Yaml.Scalar`, `Yaml.Scalar.ofPlain` — the meaning of a text without quotes

## Design notes

A run of digits that begins with a zero is a text, not a number. Integers beyond 64 bits are
faults as long as they fit 128 bits; beyond that they are read as fractions.
-/

namespace InfraDiagram.Yaml

open Text

/-- A number as a document may hold it. -/
inductive Number where
  | int (value : Int)
  | float (value : Binary64)
  | infinity (negative : Bool)
  | notANumber
  deriving DecidableEq

/-- Equality of keys: numbers of different sorts differ, the two zeros are equal, and not-a-number
    equals itself. -/
def Number.same : Number → Number → Bool
  | .int i, .int j => i == j
  | .float x, .float y => x.sameNumber y
  | .infinity a, .infinity b => a == b
  | .notANumber, .notANumber => true
  | _, _ => false

/-- The meaning of a scalar. -/
inductive Scalar where
  | null
  | bool (value : Bool)
  | number (value : Number)
  | text (value : String)
  deriving DecidableEq

def isNullWord (s : String) : Bool :=
  s = "null" || s = "Null" || s = "NULL" || s = "~"

def boolOf? (s : String) : Option Bool :=
  if s = "true" || s = "True" || s = "TRUE" then some true
  else if s = "false" || s = "False" || s = "FALSE" then some false
  else none

def digitOf? (base : Nat) (c : Char) : Option Nat :=
  (hexValue? c).filter (· < base)

def digitsOf? (base : Nat) (cs : List Char) : Option Nat :=
  if cs.isEmpty then none
  else (cs.mapM (digitOf? base)).map fun ds => ds.foldl (fun n d => n * base + d) 0

/-- A run of digits that begins with a zero and goes on, behind a sign or none. -/
def isZeroLed (cs : List Char) : Bool :=
  let digits :=
    match cs with
    | '-' :: rest | '+' :: rest => rest
    | _ => cs
  match digits with
  | '0' :: d :: rest => (d :: rest).all isAsciiDigit
  | _ => false

/-- Digits behind a mark for their base: hexadecimal, octal or binary. -/
def markedDigits? : List Char → Option Nat
  | '0' :: 'x' :: rest => digitsOf? 16 rest
  | '0' :: 'o' :: rest => digitsOf? 8 rest
  | '0' :: 'b' :: rest => digitsOf? 2 rest
  | _ => none

def integer? (cs : List Char) : Option Int :=
  let plain (digits : List Char) : Option Nat :=
    (markedDigits? digits).or (if isZeroLed digits then none else digitsOf? 10 digits)
  match cs with
  | '-' :: rest => (plain rest).map fun n => -(n : Int)
  | '+' :: rest => (plain rest).map fun n => (n : Int)
  | _ => (plain cs).map fun n => (n : Int)

/-- An integer that fits 64 bits; none if the text is no integer or one beyond 128 bits. -/
def integer (cs : List Char) : Except Fault (Option Int) :=
  match integer? cs with
  | none => .ok none
  | some i =>
    if -(1 <<< 63 : Nat) ≤ i ∧ i < (1 <<< 64 : Nat) then .ok (some i)
    else if -(1 <<< 127 : Nat) ≤ i ∧ i < (1 <<< 128 : Nat) then .error .integerRange
    else .ok none

def exponent? (cs : List Char) : Option Int :=
  match cs with
  | '-' :: digits => (digitsOf? 10 digits).map fun n => -(n : Int)
  | '+' :: digits => (digitsOf? 10 digits).map fun n => (n : Int)
  | digits => (digitsOf? 10 digits).map fun n => (n : Int)

/-- A decimal numeral without a sign: digits on one side of the point at least, and perhaps an
    exponent. -/
def decimal? (negative : Bool) (cs : List Char) : Option Binary64 :=
  let whole := cs.takeWhile isAsciiDigit
  let rest := cs.dropWhile isAsciiDigit
  let (part, rest) :=
    match rest with
    | '.' :: rest => (rest.takeWhile isAsciiDigit, rest.dropWhile isAsciiDigit)
    | _ => ([], rest)
  if whole.isEmpty && part.isEmpty then none
  else
    let exponent :=
      match rest with
      | [] => some 0
      | 'e' :: digits | 'E' :: digits => exponent? digits
      | _ => none
    exponent.bind fun e =>
      Binary64.ofDecimal? negative (natOfDigits (whole ++ part)) (e - part.length)

/-- A fraction, an infinity or not-a-number. Numerals that are too great are none of these. -/
def fraction? (cs : List Char) : Option Number :=
  let words (ws : List String) : Bool := ws.contains (String.ofList cs)
  if words [".inf", ".Inf", ".INF", "+.inf", "+.Inf", "+.INF"] then some (.infinity false)
  else if words ["-.inf", "-.Inf", "-.INF"] then some (.infinity true)
  else if words [".nan", ".NaN", ".NAN"] then some .notANumber
  else
    match cs with
    | '-' :: rest => (decimal? true rest).map .float
    | '+' :: rest => (decimal? false rest).map .float
    | _ => (decimal? false cs).map .float

def Scalar.ofPlain (s : String) : Except Fault Scalar := do
  let cs := s.toList
  if s.isEmpty || isNullWord s then return .null
  if let some b := boolOf? s then return .bool b
  if let some i ← integer cs then return .number (.int i)
  if !isZeroLed cs then
    if let some x := fraction? cs then return .number x
  return .text s

/-- The meaning of a text that a standard tag claims to be of some type. Other standard tags leave
    it a text. -/
def Scalar.ofTagged (tag : String) (s : String) : Except Fault Scalar := do
  let cs := s.toList
  if tag = "tag:yaml.org,2002:bool" then
    let some b := boolOf? s | throw .typeMismatch
    return .bool b
  else if tag = "tag:yaml.org,2002:int" then
    let some i ← integer cs | throw .typeMismatch
    return .number (.int i)
  else if tag = "tag:yaml.org,2002:float" then
    let some x := fraction? cs | throw .typeMismatch
    return .number x
  else if tag = "tag:yaml.org,2002:null" then
    if isNullWord s then return .null else throw .typeMismatch
  else return .text s

end InfraDiagram.Yaml
