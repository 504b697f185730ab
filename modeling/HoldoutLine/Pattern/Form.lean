import HoldoutLine.Pattern.Bracket
import HoldoutLine.Text.Alphanumeric

/-! # The form of a pattern

Which texts are patterns. A pattern lists alternatives with bars between them; an alternative is a
sequence of characters, escapes, dots, edges, classes and groups, each perhaps repeated. What a pattern
matches does not matter here: no log entry has a field whose value could be asked for.

A pattern that stands in a log setting holds no closing brace, so no count of repetitions and no name
between braces is ever complete, and an opening brace outside a class spoils the pattern.
-/

namespace HoldoutLine.Pattern

structure Piece where
  /-- How deep it is nested. -/
  depth : Nat
  /-- Whether it may be repeated; flags may not. -/
  repeatable : Bool

/-- What a group holds so far, or the whole pattern. -/
structure Content where
  /-- How deep the alternatives before the last bar are nested. -/
  alternatives : List Nat := []
  /-- The sequence since then, last element first. -/
  pieces : List Piece := []

namespace Content

def sequenceDepth : List Piece → Nat
  | [] => 0
  | [piece] => piece.depth
  | pieces => 1 + (pieces.map Piece.depth).foldl max 0

def depth (content : Content) : Nat :=
  let last := sequenceDepth content.pieces
  match content.alternatives with
  | [] => last
  | others => 1 + others.foldl max last

def add (content : Content) (piece : Piece) : Content :=
  { content with pieces := piece :: content.pieces }

def bar (content : Content) : Content :=
  ⟨sequenceDepth content.pieces :: content.alternatives, []⟩

def repeatLast? (content : Content) : Option Content :=
  match content.pieces with
  | [] => none
  | piece :: pieces =>
    if piece.repeatable then some { content with pieces := ⟨1 + piece.depth, true⟩ :: pieces }
    else none

end Content

structure Progress where
  flags : Flags := {}
  /-- The names of groups so far. -/
  names : List (List Char) := []
  content : Content := {}
  /-- The groups that are not yet closed, innermost first: the flags that hold again after the group,
  and what stands before it. -/
  groups : List (Flags × Content) := []

namespace Progress

/-- Open a group that is read under these flags. -/
def enter (progress : Progress) (flags : Flags) : Progress :=
  { progress with
    flags
    content := {}
    groups := (progress.flags, progress.content) :: progress.groups }

def leave? (progress : Progress) : Option Progress :=
  match progress.groups with
  | [] => none
  | (flags, content) :: groups =>
    some { progress with flags, content := content.add ⟨1 + progress.content.depth, true⟩, groups }

def add (progress : Progress) (depth : Nat) : Progress :=
  { progress with content := progress.content.add ⟨depth, true⟩ }

/-- A further element without parts, if it is allowed. -/
def addIf (allowed : Bool) (progress : Progress) : Option Progress :=
  if allowed then some (progress.add 0) else none

end Progress

/-- The name of a group: a letter or an underscore, then letters, numerals, underscores, points and
brackets. -/
def isGroupName : List Char → Bool
  | [] => false
  | first :: rest =>
    (first = '_' || isLetter first) &&
      rest.all fun c => c = '_' || c = '.' || c = '[' || c = ']' || isAlphanumeric c

/-- Read the name of a group up to its closing angle, and enter the group. -/
def enterNamed (progress : Progress) (text : List Char) : Option (Progress × List Char) :=
  match text.span (· ≠ '>') with
  | (name, _ :: rest) =>
    if isGroupName name && !progress.names.contains name then
      some ({ progress.enter progress.flags with names := name :: progress.names }, rest)
    else none
  | _ => none

/-- Read flags, and set them for the rest of the group or enter a group under them. -/
def enterFlagged (progress : Progress) (text : List Char) : Option (Progress × List Char) := do
  match ← readFlags [] text with
  | (letters, ')' :: rest) =>
    if letters.isEmpty then none
    else
      let content := progress.content.add ⟨0, false⟩
      some ({ progress with flags := progress.flags.update letters, content }, rest)
  | (letters, _ :: rest) => some (progress.enter (progress.flags.update letters), rest)
  | _ => none

/-- Read what follows an opening parenthesis. -/
def enterGroup (progress : Progress) (text : List Char) : Option (Progress × List Char) :=
  match progress.flags.skip text with
  | '?' :: 'P' :: '<' :: rest => enterNamed progress rest
  | '?' :: '<' :: rest => enterNamed progress rest
  | '?' :: rest => enterFlagged progress rest
  | rest => some (progress.enter progress.flags, rest)

/-- Add what an escape stands for. -/
def addEscaped (progress : Progress) : Escaped → Option Progress
  | .char c asByte => progress.addIf (progress.flags.allowsChar c asByte)
  | .letterClass negated => progress.addIf (progress.flags.allowsLetterClass negated)
  | .textEdge => progress.addIf true
  | .wordEdge => progress.addIf !progress.flags.characters

/-- Read what a character begins; blanks and comments before it are skipped already. -/
def step (progress : Progress) (c : Char) (rest : List Char) : Option (Progress × List Char) :=
  let flags := progress.flags
  match c with
  | '(' => enterGroup progress rest
  | ')' => progress.leave?.map (·, rest)
  | '|' => some ({ progress with content := progress.content.bar }, rest)
  | '[' => do
    let (cls, rest) ← openClass flags rest
    let (depth, rest) ← passClass flags (rest.length + 1) cls [] rest
    return (progress.add depth, rest)
  | '?' | '*' | '+' => do
    let content ← progress.content.repeatLast?
    let rest := match rest with
      | '?' :: rest => rest
      | _ => rest
    return ({ progress with content }, rest)
  | '\x7b' => none
  | '\\' => do
    let (escaped, rest) ← readEscape flags rest
    return (← addEscaped progress escaped, rest)
  | '.' => (progress.addIf flags.characters).map (·, rest)
  | '^' | '$' => (progress.addIf true).map (·, rest)
  | _ => (progress.addIf (flags.allowsChar c false)).map (·, rest)

/-- How deep a pattern may be nested. -/
def depthLimit : Nat := 250

/-- Whether the rest of a pattern goes on well. Every step takes a character, so that the length of the
text bounds their number. -/
def goesOn : Nat → Progress → List Char → Bool
  | 0, _, _ => false
  | steps + 1, progress, text =>
    match progress.flags.skip text with
    | [] => progress.groups.isEmpty && progress.content.depth ≤ depthLimit
    | c :: rest =>
      match step progress c rest with
      | some (progress, rest) => goesOn steps progress rest
      | none => false

/-- Whether a text is a pattern. -/
def isPattern (text : List Char) : Bool := goesOn (text.length + 1) {} text

end HoldoutLine.Pattern
