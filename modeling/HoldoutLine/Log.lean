import HoldoutLine.Text.CodePoint

/-! # Log entries as values

A stage that has something to tell leaves log entries next to its result, and nothing it computes
depends on them. `Logged` is a computation that may fail and that keeps its entries in order, those from
before a failure included. Which entries are shown is decided at the very end by a log filter.
-/

namespace HoldoutLine

/-- How much an entry matters, from failures to the finest detail. -/
inductive LogLevel where
  | error
  | warn
  | info
  | debug
  | trace
  deriving DecidableEq, Repr

namespace LogLevel

/-- The finer the detail, the higher the rank. -/
def rank : LogLevel → Nat
  | .error => 1
  | .warn => 2
  | .info => 3
  | .debug => 4
  | .trace => 5

def label : LogLevel → String
  | .error => "ERROR"
  | .warn => "WARN"
  | .info => "INFO"
  | .debug => "DEBUG"
  | .trace => "TRACE"

end LogLevel

inductive LogTopic where
  | command
  | dataset
  | holdout
  | fit
  | assessment
  | pipeline
  deriving DecidableEq, Repr

/-- The path by which a log setting picks the entries of a topic. -/
def LogTopic.path : LogTopic → String
  | .command => "scorereg::cmd::config"
  | .dataset => "scorereg_core::dataset"
  | .holdout => "scorereg_core::split"
  | .fit => "scorereg_core::fit"
  | .assessment => "scorereg_core::evaluate"
  | .pipeline => "scorereg_core::pipeline"

structure LogEntry where
  topic : LogTopic
  level : LogLevel
  message : String
  deriving DecidableEq, Repr

namespace LogEntry

/-- A control character that can steer a terminal is shown by its code point, any other character as it
stands. -/
def shownChar (c : Char) : List Char :=
  if c = '\x07' then "\\x07".toList
  else if c = '\x08' then "\\x08".toList
  else if c = '\x0c' then "\\x0c".toList
  else if c = '\x1b' then "\\x1b".toList
  else if c = '\x7f' then "\\x7f".toList
  else if 0x80 ≤ c.toNat ∧ c.toNat ≤ 0x9F then codePointEscape c
  else [c]

/-- The line that shows an entry: its level and its message. The time, the padding of the level and its colour, which
a terminal may show besides, are no part of it. -/
def line (entry : LogEntry) : String :=
  let message := String.ofList (entry.message.toList.flatMap shownChar)
  entry.level.label ++ " " ++ message ++ "\n"

end LogEntry

/-- A computation that may fail, with the entries it left. -/
structure Logged (ε α : Type) where
  entries : List LogEntry
  result : Except ε α

namespace Logged

variable {ε δ α β : Type}

def ofExcept (result : Except ε α) : Logged ε α := ⟨[], result⟩

def note (topic : LogTopic) (level : LogLevel) (message : String) : Logged ε Unit :=
  ⟨[⟨topic, level, message⟩], .ok ()⟩

/-- Go on with a result; after a failure nothing more happens. -/
def andThen (first : Logged ε α) (next : α → Logged ε β) : Logged ε β :=
  match first.result with
  | .ok value => ⟨first.entries ++ (next value).entries, (next value).result⟩
  | .error failure => ⟨first.entries, .error failure⟩

instance : Monad (Logged ε) where
  pure value := ⟨[], .ok value⟩
  bind := andThen

/-- Say of a failure what it means to the caller. -/
def mapError (wrap : ε → δ) (computation : Logged ε α) : Logged δ α :=
  ⟨computation.entries, computation.result.mapError wrap⟩

@[simp] theorem result_pure (value : α) : (pure value : Logged ε α).result = .ok value := rfl

@[simp] theorem result_ofExcept (result : Except ε α) : (ofExcept result).result = result := rfl

@[simp] theorem result_note (topic : LogTopic) (level : LogLevel) (message : String) :
    (note topic level message : Logged ε Unit).result = .ok () := rfl

@[simp] theorem result_mapError (wrap : ε → δ) (computation : Logged ε α) :
    (computation.mapError wrap).result = computation.result.mapError wrap := rfl

/-- The result of a chain is the chain of the results. -/
@[simp] theorem result_bind (first : Logged ε α) (next : α → Logged ε β) :
    (first >>= next).result = first.result >>= fun value => (next value).result := by
  change (andThen first next).result = _
  unfold andThen
  cases first.result <;> rfl

end Logged

end HoldoutLine
