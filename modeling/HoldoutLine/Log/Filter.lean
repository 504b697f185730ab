import HoldoutLine.Log

/-! # Log filters

Which log entries are shown. A filter is a list of rules; a rule covers the entries whose topic's path
starts with the path it names, and the most specific rule that covers an entry decides up to which level
it is shown. An entry that no rule covers is not shown.
-/

namespace HoldoutLine

/-- Up to which level the entries are shown that the rule covers. -/
structure LogRule where
  /-- How the path of a topic has to start; without it the rule covers every topic. -/
  path : Option (List Char)
  /-- The names of the fields that an entry has to have. -/
  fields : List (List Char)
  /-- The highest rank that is shown; zero shows nothing. -/
  limit : Nat
  deriving DecidableEq, Repr

namespace LogRule

/-- The one field that every entry has, and the only one. -/
def messageField : List Char := "message".toList

def covers (rule : LogRule) (entry : LogEntry) : Bool :=
  (rule.path.all fun path => path.isPrefixOf entry.topic.path.toList) &&
    rule.fields.all fun field => field = messageField

/-- A rule with a path is more specific than one without, a longer path than a shorter, and with paths of
one length more fields than fewer. -/
def lessSpecific (first second : LogRule) : Bool :=
  let reach (rule : LogRule) : Nat := rule.path.elim 0 fun path => path.length + 1
  reach first < reach second ||
    (reach first = reach second && first.fields.length < second.fields.length)

/-- The more specific of two rules; between equals, the later. -/
def moreSpecific (earlier later : LogRule) : LogRule :=
  if later.lessSpecific earlier then earlier else later

end LogRule

/-- The rules that decide which entries are shown. -/
structure LogFilter where
  rules : List LogRule
  deriving DecidableEq, Repr

namespace LogFilter

def upTo (level : LogLevel) : LogFilter := ⟨[⟨none, [], level.rank⟩]⟩

/-- Without a setting, the more often detail is asked for, the more is shown. -/
def ofVerbosity : Nat → LogFilter
  | 0 => upTo .warn
  | 1 => upTo .info
  | _ => upTo .debug

def deciding? (filter : LogFilter) (entry : LogEntry) : Option LogRule :=
  match filter.rules.filter (·.covers entry) with
  | [] => none
  | rule :: rules => some (rules.foldl LogRule.moreSpecific rule)

def shows (filter : LogFilter) (entry : LogEntry) : Bool :=
  (filter.deciding? entry).any fun rule => entry.level.rank ≤ rule.limit

def text (filter : LogFilter) (entries : List LogEntry) : String :=
  String.join ((entries.filter filter.shows).map LogEntry.line)

end LogFilter

end HoldoutLine
