import HoldoutLine.Pattern.Escape

/-! # Classes between brackets

A class between brackets lists its members: characters, ranges of characters, classes that are named by
a letter or by a word, and classes between brackets of their own. Operators between two lists intersect
them, take one from the other, or keep what is in just one. A caret after the opening bracket negates
the class; dashes right after it, and a closing bracket in the first place, are members.
-/

namespace HoldoutLine.Pattern

def classNames : List (List Char) :=
  ["alnum", "alpha", "ascii", "blank", "cntrl", "digit", "graph", "lower", "print", "punct", "space",
    "upper", "word", "xdigit"].map String.toList

/-- Read a class that is named by a word, after its opening bracket: the name between colons, perhaps
negated, and the closing bracket. -/
def wordClass? : List Char → Option (Bool × List Char)
  | ':' :: text =>
    let (negated, text) := match text with
      | '^' :: rest => (true, rest)
      | _ => (false, text)
    match text.span (· ≠ ':') with
    | (name, ':' :: ']' :: rest) => if classNames.contains name then some (negated, rest) else none
    | _ => none
  | _ => none

/-- A class that is not yet closed. -/
structure OpenClass where
  /-- Whether nothing but dashes stands after the opening bracket. -/
  fresh : Bool
  /-- How deep the operands of the operators so far are nested. -/
  left : Option Nat
  /-- How deep each member since the last operator is nested. -/
  members : List Nat

namespace OpenClass

/-- How deep a list of members is nested. -/
def listDepth : List Nat → Nat
  | [] => 0
  | [depth] => depth
  | depths => 1 + depths.foldl max 0

def depth (cls : OpenClass) : Nat :=
  match cls.left with
  | none => listDepth cls.members
  | some left => 1 + max left (listDepth cls.members)

def add (cls : OpenClass) (depth : Nat) : OpenClass :=
  { cls with fresh := false, members := depth :: cls.members }

def operator (cls : OpenClass) : OpenClass := ⟨false, some cls.depth, []⟩

end OpenClass

/-- Open a class, after its opening bracket. A negated class of bytes would match half a character. -/
def openClass (flags : Flags) (text : List Char) : Option (OpenClass × List Char) :=
  match flags.skip text with
  | '^' :: rest => if flags.characters then some (⟨true, none, []⟩, rest) else none
  | rest => some (⟨true, none, []⟩, rest)

/-- Read a character or an escape. -/
def readMember (flags : Flags) : List Char → Option (Escaped × List Char)
  | [] => none
  | '\\' :: rest => readEscape flags rest
  | c :: rest => some (.char c false, rest)

/-- A character or a class that is a member by itself. -/
def allowsSingle (flags : Flags) : Escaped → Bool
  | .char c _ => flags.allowsMember c
  | .letterClass negated => flags.allowsLetterClass negated
  | .textEdge => false
  | .wordEdge => false

/-- Two characters that bound a range. -/
def allowsRange (flags : Flags) : Escaped → Escaped → Bool
  | .char first _, .char last _ => first ≤ last && flags.allowsMember first && flags.allowsMember last
  | _, _ => false

/-- Read a member or a range, and give what follows it. A dash before the closing bracket or before
another dash makes no range. -/
def passMember (flags : Flags) (text : List Char) : Option (List Char) := do
  let (first, rest) ← readMember flags text
  match flags.skip rest with
  | '-' :: rest =>
    let next := flags.peek? rest
    if next = some ']' ∨ next = some '-' then
      if allowsSingle flags first then some ('-' :: rest) else none
    else
      let (last, rest) ← readMember flags (flags.skip rest)
      if allowsRange flags first last then some rest else none
  | rest => if allowsSingle flags first then some rest else none

/-- Read the rest of a class inside the classes `outer`, which are not yet closed either; give the depth
of the outermost class, and what follows it. Every step takes a character, so that the length of the
text bounds their number. -/
def passClass (flags : Flags) : Nat → OpenClass → List OpenClass → List Char →
    Option (Nat × List Char)
  | 0, _, _, _ => none
  | steps + 1, cls, outer, text =>
    match flags.skip text with
    | [] => none
    | '[' :: rest =>
      match wordClass? rest with
      | some (negated, rest) =>
        if flags.allowsWordClass negated then passClass flags steps (cls.add 0) outer rest else none
      | none => do
        let (inner, rest) ← openClass flags rest
        passClass flags steps inner ({ cls with fresh := false } :: outer) rest
    | ']' :: rest =>
      if cls.fresh && cls.members.isEmpty then
        if flags.allowsMember ']' then passClass flags steps (cls.add 0) outer rest else none
      else match outer with
        | [] => some (1 + cls.depth, rest)
        | next :: outer => passClass flags steps (next.add (1 + cls.depth)) outer rest
    | '-' :: rest =>
      if cls.fresh then
        if flags.allowsMember '-' then
          passClass flags steps { cls.add 0 with fresh := true } outer rest
        else none
      else match rest with
        | '-' :: rest => passClass flags steps cls.operator outer rest
        | _ => do passClass flags steps (cls.add 0) outer (← passMember flags ('-' :: rest))
    | '&' :: '&' :: rest => passClass flags steps cls.operator outer rest
    | '~' :: '~' :: rest => passClass flags steps cls.operator outer rest
    | rest => do passClass flags steps (cls.add 0) outer (← passMember flags rest)

end HoldoutLine.Pattern
