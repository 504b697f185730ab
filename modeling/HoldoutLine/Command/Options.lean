import HoldoutLine.Decimal.Numeral
import HoldoutLine.Holdout
import HoldoutLine.Report.Basic

/-! # Options of the command line

Which options there are, how they are spelled, which values they take, and the settings that a command
line gives. Each option that takes a value may be given once; asking for more log output may be repeated.
-/

namespace HoldoutLine.Command

inductive ValueOption where
  | input
  | testSize
  | seed
  | rows
  | format
  | style
  deriving DecidableEq, Repr

inductive Flag where
  | verbose
  | help
  | version
  deriving DecidableEq, Repr

inductive AnyOption where
  | value (option : ValueOption)
  | flag (flag : Flag)
  deriving DecidableEq, Repr

/-- Why the command line gives no settings. A request for help or for the version is one of the reasons. -/
inductive Refusal where
  | unknownArgument
  /-- An option that takes a value has none. -/
  | missingValue
  | invalidValue
  | repeatedOption
  /-- A value is attached to an option that takes none. -/
  | unexpectedValue
  | helpRequested
  | versionRequested
  deriving DecidableEq, Repr

def longOption? (name : List Char) : Option AnyOption :=
  match String.ofList name with
  | "input" => some (.value .input)
  | "test-size" => some (.value .testSize)
  | "seed" => some (.value .seed)
  | "rows" => some (.value .rows)
  | "format" => some (.value .format)
  | "style" => some (.value .style)
  | "verbose" => some (.flag .verbose)
  | "help" => some (.flag .help)
  | "version" => some (.flag .version)
  | _ => none

def shortOption? : Char → Option AnyOption
  | 'i' => some (.value .input)
  | 't' => some (.value .testSize)
  | 's' => some (.value .seed)
  | 'r' => some (.value .rows)
  | 'f' => some (.value .format)
  | 'v' => some (.flag .verbose)
  | 'h' => some (.flag .help)
  | 'V' => some (.flag .version)
  | _ => none

/-- A count of a machine word: decimal digits after an optional plus sign. -/
def readCount? (text : String) : Option UInt64 :=
  let digits := match text.toList with
    | '+' :: rest => rest
    | other => other
  let value := Numeral.ofDigits digits
  if digits.isEmpty ∨ !digits.all Char.isDigit ∨ Binary64.maxCount < value then none
  else some (UInt64.ofNat value)

/-- What a command line says; what it leaves open is `none`. -/
structure Settings where
  input : Option String := none
  testFraction : Option Float := none
  seed : Option UInt64 := none
  rows : Option UInt64 := none
  format : Option OutputFormat := none
  style : Option ReportStyle := none
  /-- How often more log output was asked for, up to 255. -/
  verbosity : Nat := 0
  deriving DecidableEq

namespace Settings

def has (settings : Settings) : ValueOption → Bool
  | .input => settings.input.isSome
  | .testSize => settings.testFraction.isSome
  | .seed => settings.seed.isSome
  | .rows => settings.rows.isSome
  | .format => settings.format.isSome
  | .style => settings.style.isSome

/-- The settings with an option's value read from its text; `none` if the text is no value of it. -/
def assign? (settings : Settings) (option : ValueOption) (text : String) : Option Settings :=
  match option with
  | .input => some { settings with input := some text }
  | .testSize => (Numeral.toFloat? text).map fun x => { settings with testFraction := some x }
  | .seed => (readCount? text).map fun n => { settings with seed := some n }
  | .rows => (readCount? text).map fun n => { settings with rows := some n }
  | .format => (OutputFormat.ofName text).toOption.map fun f => { settings with format := some f }
  | .style => (ReportStyle.ofName text).toOption.map fun s => { settings with style := some s }

/-- Take an option's value; that it was given before is noticed before its text is read. -/
def store (settings : Settings) (option : ValueOption) (text : String) : Except Refusal Settings :=
  if settings.has option then .error .repeatedOption
  else match settings.assign? option text with
    | some settings => .ok settings
    | none => .error .invalidValue

def raise (settings : Settings) : Flag → Except Refusal Settings
  | .verbose => .ok { settings with verbosity := min (settings.verbosity + 1) 255 }
  | .help => .error .helpRequested
  | .version => .error .versionRequested

end Settings

inductive Source where
  | bundled
  | file (path : String)
  | standardInput
  deriving DecidableEq, Repr

namespace Source

/-- The source that the input option names; a single dash is the standard input. -/
def ofInput : Option String → Source
  | none => .bundled
  | some path => if path = "-" then .standardInput else .file path

def label : Source → String
  | .bundled => "embedded scores"
  | .file path => path
  | .standardInput => "stdin"

end Source

/-- What to do: the settings with every open one at its default. -/
structure Invocation where
  source : Source
  plan : HoldoutPlan
  format : OutputFormat
  style : ReportStyle
  /-- How many predictions a report shows. -/
  rows : Nat
  verbosity : Nat
  deriving DecidableEq

def defaultRows : UInt64 := 10

def Settings.invocation (settings : Settings) : Invocation :=
  let plan : HoldoutPlan := {}
  { source := .ofInput settings.input
    plan := ⟨settings.testFraction.getD plan.testFraction, settings.seed.getD plan.seed⟩
    format := settings.format.getD .text
    style := settings.style.getD .detailed
    rows := (settings.rows.getD defaultRows).toNat
    verbosity := settings.verbosity }

end HoldoutLine.Command
