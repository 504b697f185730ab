import HoldoutLine.Command.Options

/-! # Reading a command line

Arguments are read from left to right, and the first failure is the answer. A value that is attached to
its option is taken at once. A value that is an argument of its own stays pending: it is taken when the
next known option starts or the arguments end, so an unknown argument right after it is noticed first.
-/

namespace HoldoutLine.Command

inductive Argument where
  /-- Two dashes alone: the end of the options. -/
  | terminator
  /-- Two dashes and a name, with the value after the first equal sign if there is one. -/
  | long (name : List Char) (attached : Option String)
  /-- A dash and letters. -/
  | letters (text : List Char)
  /-- Anything else, the empty argument and a single dash included. -/
  | word
  deriving DecidableEq, Repr

namespace Argument

/-- Take a long option apart at its first equal sign. -/
def ofLong (text : List Char) : Argument :=
  match text.dropWhile (· ≠ '=') with
  | [] => .long text none
  | _ :: value => .long (text.takeWhile (· ≠ '=')) (some (String.ofList value))

def ofChars : List Char → Argument
  | ['-', '-'] => .terminator
  | '-' :: '-' :: text => ofLong text
  | '-' :: c :: text => .letters (c :: text)
  | _ => .word

end Argument

/-- An option whose value is not settled yet. -/
inductive Pending where
  | nothing
  /-- The value is still to come. -/
  | awaiting (option : ValueOption)
  /-- The value has come and is still to be taken. -/
  | holding (option : ValueOption) (text : String)
  deriving DecidableEq, Repr

/-- How far the reading of a command line has got. -/
structure Progress where
  settings : Settings
  pending : Pending
  deriving DecidableEq

namespace Progress

def initial : Progress := ⟨{}, .nothing⟩

def settle (progress : Progress) : Except Refusal Settings :=
  match progress.pending with
  | .nothing => .ok progress.settings
  | .awaiting _ => .error .missingValue
  | .holding option text => progress.settings.store option text

/-- Start an option that takes a value, with the value attached to it if there is one. -/
def startValue (progress : Progress) (option : ValueOption) (attached : Option String) :
    Except Refusal Progress := do
  let settings ← progress.settle
  match attached with
  | none => return ⟨settings, .awaiting option⟩
  | some text => return ⟨← settings.store option text, .nothing⟩

/-- Start an option that takes no value. -/
def startFlag (progress : Progress) (flag : Flag) : Except Refusal Progress := do
  let settings ← progress.settle
  return ⟨← settings.raise flag, .nothing⟩

/-- What is left of a cluster of letters is the value of its last option; one equal sign before it does
not count, and nothing is no value. -/
def attachedValue : List Char → Option String
  | [] => none
  | '=' :: text => some (String.ofList text)
  | text => some (String.ofList text)

def readLetters (progress : Progress) : List Char → Except Refusal Progress
  | [] => .ok progress
  | letter :: rest =>
    match shortOption? letter with
    | none => .error .unknownArgument
    | some (.value option) => progress.startValue option (attachedValue rest)
    | some (.flag flag) => do readLetters (← progress.startFlag flag) rest

def readLong (progress : Progress) (name : List Char) (attached : Option String) :
    Except Refusal Progress :=
  match longOption? name with
  | none => .error .unknownArgument
  | some (.value option) => progress.startValue option attached
  | some (.flag flag) => if attached.isSome then .error .unexpectedValue else progress.startFlag flag

/-- Read a word, which only an option that awaits a value may be followed by. -/
def readWord (progress : Progress) (word : String) : Except Refusal Progress :=
  match progress.pending with
  | .awaiting option => .ok { progress with pending := .holding option word }
  | _ => .error .unknownArgument

/-- Read the arguments that are left. Nothing may follow the end of the options. -/
def readAll (progress : Progress) : List String → Except Refusal Settings
  | [] => progress.settle
  | argument :: rest =>
    match Argument.ofChars argument.toList with
    | .terminator => if rest.isEmpty then progress.settle else .error .unknownArgument
    | .long name attached => do readAll (← progress.readLong name attached) rest
    | .letters text => do readAll (← progress.readLetters text) rest
    | .word => do readAll (← progress.readWord argument) rest

end Progress

def parse (arguments : List String) : Except Refusal Invocation :=
  (Progress.initial.readAll arguments).map Settings.invocation

end HoldoutLine.Command
