import HoldoutLine.Command.Options

/-! # Spelled options

The ways to write an option on the command line: the long name with its value after an equal sign or as
the next argument, or the letter with its value after it, after an equal sign or as the next argument.
Requests for more log output stand alone, in clusters, or in front of an option's letter. What a list of
spelled options asks for is said by `Spelled.settings`, without reading any argument.
-/

namespace HoldoutLine.Command

namespace ValueOption

def name : ValueOption → String
  | .input => "input"
  | .testSize => "test-size"
  | .seed => "seed"
  | .rows => "rows"
  | .format => "format"
  | .style => "style"

def letter? : ValueOption → Option Char
  | .input => some 'i'
  | .testSize => some 't'
  | .seed => some 's'
  | .rows => some 'r'
  | .format => some 'f'
  | .style => none

end ValueOption

/-- An option as it is spelled. -/
inductive Spelled where
  /-- The long name that asks for more log output. -/
  | verboseName
  /-- One letter that asks for more log output, and `more` of them. -/
  | verboseLetters (more : Nat)
  /-- `--name value` -/
  | longApart (option : ValueOption) (text : String)
  /-- `--name=value` -/
  | longAttached (option : ValueOption) (text : String)
  /-- `-x value`, after `verbose` letters that ask for more log output. -/
  | letterApart (verbose : Nat) (option : ValueOption) (letter : Char) (text : String)
  /-- `-xvalue`, after such letters. -/
  | letterAttached (verbose : Nat) (option : ValueOption) (letter : Char) (text : String)
  /-- `-x=value`, after such letters. -/
  | letterEqual (verbose : Nat) (option : ValueOption) (letter : Char) (text : String)
  deriving DecidableEq, Repr

namespace Spelled

/-- A dash, letters that ask for more log output, and the rest of the cluster. -/
def cluster (verbose : Nat) (rest : List Char) : String :=
  String.ofList ('-' :: List.replicate verbose 'v' ++ rest)

def arguments : Spelled → List String
  | .verboseName => ["--verbose"]
  | .verboseLetters more => [cluster (more + 1) []]
  | .longApart option text => ["--" ++ option.name, text]
  | .longAttached option text => ["--" ++ option.name ++ "=" ++ text]
  | .letterApart verbose _ letter text => [cluster verbose [letter], text]
  | .letterAttached verbose _ letter text => [cluster verbose (letter :: text.toList)]
  | .letterEqual verbose _ letter text => [cluster verbose (letter :: '=' :: text.toList)]

/-- A value that may be an argument of its own: it starts with no dash, or is a single one. -/
def standsApart (text : String) : Bool := text = "-" || text.toList.head? != some '-'

/-- A value that may follow its letter directly: not empty, and starting with no equal sign. -/
def attaches (text : String) : Bool := !text.isEmpty && text.toList.head? != some '='

def isValid : Spelled → Bool
  | .verboseName => true
  | .verboseLetters _ => true
  | .longApart _ text => standsApart text
  | .longAttached _ _ => true
  | .letterApart _ option letter text => option.letter? = some letter && standsApart text
  | .letterAttached _ option letter text => option.letter? = some letter && attaches text
  | .letterEqual _ option letter _ => option.letter? = some letter

/-- The option and the text of its value, if it takes one. -/
def value? : Spelled → Option (ValueOption × String)
  | .verboseName => none
  | .verboseLetters _ => none
  | .longApart option text => some (option, text)
  | .longAttached option text => some (option, text)
  | .letterApart _ option _ text => some (option, text)
  | .letterAttached _ option _ text => some (option, text)
  | .letterEqual _ option _ text => some (option, text)

/-- How often more log output is asked for. -/
def verbosity : Spelled → Nat
  | .verboseName => 1
  | .verboseLetters more => more + 1
  | .longApart .. => 0
  | .longAttached .. => 0
  | .letterApart verbose .. => verbose
  | .letterAttached verbose .. => verbose
  | .letterEqual verbose .. => verbose

/-- The text that spelled options give to an option. -/
def textOf? (spelled : List Spelled) (option : ValueOption) : Option String :=
  (spelled.filterMap value?).lookup option

/-- What spelled options ask for, each option's value read from its text. -/
def settings (spelled : List Spelled) : Settings where
  input := textOf? spelled .input
  testFraction := (textOf? spelled .testSize).bind Numeral.toFloat?
  seed := (textOf? spelled .seed).bind readCount?
  rows := (textOf? spelled .rows).bind readCount?
  format := (textOf? spelled .format).bind fun text => (OutputFormat.ofName text).toOption
  style := (textOf? spelled .style).bind fun text => (ReportStyle.ofName text).toOption
  verbosity := min (spelled.foldr (fun option count => option.verbosity + count) 0) 255

end Spelled

end HoldoutLine.Command
