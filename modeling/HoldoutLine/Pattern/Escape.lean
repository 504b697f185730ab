import HoldoutLine.Pattern.Flags

/-! # Escapes in a pattern

What a backslash and the characters after it stand for: a character, by itself or by its code point, a
class that is named by a letter, or an edge. Letters and digits have no meaning of their own behind a
backslash unless it is listed here.
-/

namespace HoldoutLine.Pattern

/-- What an escape stands for. -/
inductive Escaped where
  /-- A character; `asByte` if it is written by two hexadecimal digits. -/
  | char (c : Char) (asByte : Bool)
  /-- The class of digits, blanks or word characters, or of all others. -/
  | letterClass (negated : Bool)
  /-- The beginning or the end of the text. -/
  | textEdge
  /-- An edge of a word, or a place that is none. -/
  | wordEdge
  deriving DecidableEq, Repr

def hexValue? (c : Char) : Option Nat :=
  if c.isDigit then some (c.toNat - '0'.toNat)
  else if 'a' ≤ c ∧ c ≤ 'f' then some (c.toNat - 'a'.toNat + 10)
  else if 'A' ≤ c ∧ c ≤ 'F' then some (c.toNat - 'A'.toNat + 10)
  else none

/-- Read the number that so many hexadecimal digits write after `value`. -/
def readHex (flags : Flags) (value : Nat) : Nat → List Char → Option (Nat × List Char)
  | 0, text => some (value, text)
  | _ + 1, [] => none
  | more + 1, c :: rest => do
    readHex flags (16 * value + (← hexValue? c)) more (flags.skip rest)

/-- Read a character that is written by its code point. -/
def readCodePoint (flags : Flags) (digits : Nat) (asByte : Bool) (text : List Char) :
    Option (Escaped × List Char) := do
  let (code, rest) ← readHex flags 0 digits (flags.skip text)
  if code.isValidChar then some (.char (Char.ofNat code) asByte, rest) else none

/-- Read an escape after its backslash. -/
def readEscape (flags : Flags) : List Char → Option (Escaped × List Char)
  | [] => none
  | c :: rest =>
    match c with
    | 'x' => readCodePoint flags 2 true rest
    | 'u' => readCodePoint flags 4 false rest
    | 'U' => readCodePoint flags 8 false rest
    | 'd' | 's' | 'w' => some (.letterClass false, rest)
    | 'D' | 'S' | 'W' => some (.letterClass true, rest)
    | 'a' => some (.char '\x07' false, rest)
    | 'f' => some (.char '\x0c' false, rest)
    | 't' => some (.char '\t' false, rest)
    | 'n' => some (.char '\n' false, rest)
    | 'r' => some (.char '\r' false, rest)
    | 'v' => some (.char '\x0b' false, rest)
    | 'A' | 'z' => some (.textEdge, rest)
    | 'b' | 'B' | '<' | '>' => some (.wordEdge, rest)
    | _ => if c.toNat < 0x80 ∧ !c.isAlphanum then some (.char c false, rest) else none

end HoldoutLine.Pattern
