import HoldoutLine.Text.Blank

/-! # Flags of a pattern

A log setting may ask for the value of a field by a pattern. Flags say how a stretch of a pattern is
read; they are set between parentheses, for the rest of the group or for a group of their own. Patterns
come without tables of characters, so what would need one is only possible where bytes are matched: the
classes of digits, blanks and word characters, the edges of words, and letters without regard to case.
Where bytes are matched, on the other hand, nothing may match half a character.
-/

namespace HoldoutLine.Pattern

/-- How a stretch of a pattern is read. -/
structure Flags where
  /-- Letters match without regard to case. -/
  ignoreCase : Bool := false
  /-- Characters are matched, and not bytes. -/
  characters : Bool := true
  /-- Blanks and comments are skipped. -/
  spaced : Bool := false
  deriving DecidableEq, Repr

/-- Skip blanks and comments; a comment goes from a number sign to the end of the line. -/
def skipSpaced (inComment : Bool) : List Char → List Char
  | [] => []
  | c :: rest =>
    if inComment then skipSpaced (c ≠ '\n') rest
    else if isBlank c then skipSpaced false rest
    else if c = '#' then skipSpaced true rest
    else c :: rest

/-- The letters of the flags: case, lines, dots, blanks, greed, characters and line ends. -/
def flagLetters : List Char := "ismxUuR".toList

/-- Read flags up to a colon or a closing parenthesis. There is at most one dash, which turns the flags
after it off, and no flag is given twice; `seen` holds what was read, last first. -/
def readFlags (seen : List Char) : List Char → Option (List Char × List Char)
  | [] => none
  | c :: rest =>
    if c = ':' ∨ c = ')' then
      if seen.head? = some '-' then none else some (seen.reverse, c :: rest)
    else if (c = '-' ∨ flagLetters.contains c) ∧ !seen.contains c then readFlags (c :: seen) rest
    else none

namespace Flags

def skip (flags : Flags) (text : List Char) : List Char :=
  if flags.spaced then skipSpaced false text else text

/-- The next character after one that is passed over. In a comment, its first character that is not
blank is taken for the next one. -/
def peek? (flags : Flags) (text : List Char) : Option Char :=
  if flags.spaced then
    match text.dropWhile isBlank with
    | '#' :: comment => (comment.dropWhile isBlank).head?
    | other => other.head?
  else text.head?

/-- What a list of flags says of one of them. -/
def stated? (letters : List Char) (letter : Char) : Option Bool :=
  if letters.contains letter then some !(letters.takeWhile (· ≠ letter)).contains '-' else none

/-- Flags after a list of flags. -/
def update (flags : Flags) (letters : List Char) : Flags where
  ignoreCase := (stated? letters 'i').getD flags.ignoreCase
  characters := (stated? letters 'u').getD flags.characters
  spaced := (stated? letters 'x').getD flags.spaced

/-- Whether a character may stand for itself; `asByte` if it is written by two hexadecimal digits. -/
def allowsChar (flags : Flags) (c : Char) (asByte : Bool) : Bool :=
  if flags.characters then !flags.ignoreCase else !asByte || c.toNat < 0x80

/-- Whether a character may be a member of a class. -/
def allowsMember (flags : Flags) (c : Char) : Bool :=
  if flags.characters then !flags.ignoreCase else c.toNat < 0x80

/-- Whether a class that is named by a letter may stand here. -/
def allowsLetterClass (flags : Flags) (negated : Bool) : Bool := !flags.characters && !negated

/-- Whether a class that is named by a word may stand here. -/
def allowsWordClass (flags : Flags) (negated : Bool) : Bool :=
  if flags.characters then !flags.ignoreCase else !negated

end Flags

end HoldoutLine.Pattern
