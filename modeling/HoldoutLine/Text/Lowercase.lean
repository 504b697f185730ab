import HoldoutLine.Text.CharTable

/-! # Lowercase

The small form of a text. Two capitals need more than a table: the dotted capital I becomes a small i
and a combining dot, and the Greek capital sigma becomes a final sigma at the end of a word. A sigma
ends a word if a cased letter stands before it and none after it, looking past the characters that case
rules skip.
-/

namespace HoldoutLine

open CharTable

def isCased (c : Char) : Bool := inRanges casedLetters c.toNat

/-- Characters that case rules look past. -/
def isCaseIgnorable (c : Char) : Bool :=
  inRanges modifiers c.toNat || inRanges marks c.toNat || inRanges formats c.toNat

/-- The small form of a code point, itself if it is no capital. -/
def smallCode (code : Nat) : Nat :=
  match capitals.find? fun r => r.first ≤ code ∧ code ≤ r.last ∧ (code - r.first) % r.step = 0 with
  | some r => r.small + (code - r.first)
  | none => code

/-- Whether the first character that case rules do not skip is a letter with case. -/
def startsCased (text : List Char) : Bool :=
  match text.dropWhile isCaseIgnorable with
  | c :: _ => isCased c
  | [] => false

/-- The small form of a character between the text before it, nearest first, and the text after it. -/
def lowercaseChar (before : List Char) (c : Char) (after : List Char) : List Char :=
  if c = 'İ' then ['i', '\u0307']
  else if c = 'Σ' then if startsCased before && !startsCased after then ['ς'] else ['σ']
  else [Char.ofNat (smallCode c.toNat)]

/-- The small form of a text that stands after `before`, which is given nearest first. -/
def lowercaseAfter (before : List Char) : List Char → List Char
  | [] => []
  | c :: rest => lowercaseChar before c rest ++ lowercaseAfter (c :: before) rest

/-- The small form of a text. -/
def lowercase (text : List Char) : List Char := lowercaseAfter [] text

end HoldoutLine
