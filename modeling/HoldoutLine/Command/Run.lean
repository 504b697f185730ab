import HoldoutLine.Command.Scan
import HoldoutLine.Dataset.Bundled
import HoldoutLine.Log.Setting
import HoldoutLine.Pipeline
import HoldoutLine.Report.Document
import HoldoutLine.Report.Text

/-! # A run of the command

What a run prints, as a function of its arguments and of what it can see: the log setting, the standard
input and the files. Output appears only if the whole run succeeds; a failure is told in one line after
the log. The log decides nothing but which of its own lines are shown.
-/

namespace HoldoutLine.Command

/-- What a run can see of the world. -/
structure Surroundings where
  /-- The setting that overrides the verbosity, if there is one. -/
  logSetting : Option String
  standardInput : Table.Feed
  /-- The bytes of a file, or why it cannot be opened. -/
  openFile : String → Except String Table.Feed

structure Outcome where
  exitCode : Nat
  output : String
  /-- The log, and the message of a failure. -/
  diagnostics : String
  deriving DecidableEq, Repr

/-- Why a run fails. A report can always be written as a document, and a run ends where its output is known: whether
the output can be printed is not its concern. -/
inductive RunError where
  | load (source : Source) (cause : DatasetError)
  | pipeline (cause : PipelineError)
  deriving DecidableEq

def RunError.message : RunError → String
  | .load source cause => "failed to load " ++ source.label ++ ": " ++ cause.message
  | .pipeline cause => cause.message

namespace Source

/-- The bytes of a source; only a file may fail to open. -/
def opened (source : Source) (surroundings : Surroundings) : Except String Table.Feed :=
  match source with
  | .bundled => .ok (.ofText Dataset.bundledTable)
  | .standardInput => .ok surroundings.standardInput
  | .file path => surroundings.openFile path

/-- The dataset of a source, with what loading it tells. -/
def load (source : Source) (surroundings : Surroundings) : Logged DatasetError Dataset := do
  Logged.note .command .debug ("loading " ++ source.label)
  match source with
  | .file path => Logged.note .dataset .debug ("reading dataset from " ++ path)
  | _ => pure ()
  Dataset.load (source.opened surroundings)

end Source

namespace Invocation

def report (invocation : Invocation) (surroundings : Surroundings) : Logged RunError Report := do
  let dataset ← (invocation.source.load surroundings).mapError (.load invocation.source)
  (Pipeline.run dataset invocation.plan).mapError .pipeline

/-- A report in the form that was asked for; a JSON document is followed by a line end. -/
def render (invocation : Invocation) (report : Report) : String :=
  match invocation.format with
  | .text => report.renderText invocation.style invocation.rows
  | .json => report.renderJson ++ "\n"

/-- Which log entries are shown; a setting that names no level leaves it to the verbosity. -/
def logFilter (invocation : Invocation) (surroundings : Surroundings) : LogFilter :=
  (surroundings.logSetting.bind LogFilter.ofSetting?).getD (.ofVerbosity invocation.verbosity)

/-- How the run of an invocation ends. -/
def outcome (invocation : Invocation) (surroundings : Surroundings) : Outcome :=
  let report := invocation.report surroundings
  let log := (invocation.logFilter surroundings).text report.entries
  match report.result with
  | .ok report => ⟨0, invocation.render report, log⟩
  | .error failure => ⟨1, "", log ++ failure.message ++ "\n"⟩

end Invocation

def helpLines : List String :=
  ["Fit final exam scores from midterm scores and report test-set error",
    "",
    "Usage: scorereg [OPTIONS]",
    "",
    "Options:",
    "  -i, --input <PATH>           Two column CSV (header + numeric rows), `-` for stdin. " ++
      "Defaults to the bundled scores",
    "  -t, --test-size <TEST_SIZE>  Fraction of rows held out for testing [default: 0.2]",
    "  -s, --seed <SEED>            Seed for the train/test shuffle [default: 42]",
    "  -r, --rows <ROWS>            Number of prediction rows to print [default: 10]",
    "  -f, --format <FORMAT>        Output format: text or json [default: text]",
    "      --style <STYLE>          Text layout: detailed or brief [default: detailed]",
    "  -v, --verbose...             More log output on stderr (-v info, -vv debug)",
    "  -h, --help                   Print help",
    "  -V, --version                Print version"]

def helpText : String := Report.joinLines helpLines

def versionText : String := "scorereg 0.1.0\n"

/-- The message on arguments that cannot be used; a request is answered and has none. The texts are the library's own,
one for each kind of refusal: a front end may word them otherwise, quote the argument and add the usage. -/
def Refusal.message : Refusal → String
  | .unknownArgument => "error: unexpected argument\n"
  | .missingValue => "error: an option lacks its value\n"
  | .invalidValue => "error: invalid value for an option\n"
  | .repeatedOption => "error: an option is given more than once\n"
  | .unexpectedValue => "error: a value is given to an option that takes none\n"
  | .helpRequested => ""
  | .versionRequested => ""

def run (arguments : List String) (surroundings : Surroundings) : Outcome :=
  match parse arguments with
  | .ok invocation => invocation.outcome surroundings
  | .error .helpRequested => ⟨0, helpText, ""⟩
  | .error .versionRequested => ⟨0, versionText, ""⟩
  | .error refusal => ⟨2, "", refusal.message⟩

end HoldoutLine.Command
