import HoldoutLine.Text.Blank
import HoldoutLine.Text.CharTable
import HoldoutLine.Text.CodePoint
import HoldoutLine.Text.Unassigned

/-! # Quoted names in messages

A name in a log line stands between double quotes. Quotes, backslashes and the common control
characters get a backslash; a character that would not show by itself is written by its code point:
control and format characters, blanks other than the space, letters that only fill a space, marks that
belong to the character before them, private characters, and code points without a character.
-/

namespace HoldoutLine

open CharTable

/-- Code points left to private agreement, and all planes from the first such plane on. -/
def isPrivateUse (code : Nat) : Bool :=
  (0xE000 ≤ code ∧ code ≤ 0xF8FF) ∨ 0xF0000 ≤ code

/-- A character that does not show by itself. -/
def isHidden (c : Char) : Bool :=
  let code := c.toNat
  code < 0x20 || (0x7F ≤ code && code < 0xA0) ||
    -- The halfwidth sound marks U+FF9E and U+FF9F attach to a character too, and show by themselves all the same.
    (0xA0 ≤ code &&
      (isBlank c || isPrivateUse code || inRanges fillers code || inRanges marks code ||
        inRanges attached code || inRanges formats code || inRanges unassigned code))

/-- How a character is written between the quotes. -/
def quotedChar (c : Char) : List Char :=
  if c = '"' ∨ c = '\\' then ['\\', c]
  else if c = '\n' then ['\\', 'n']
  else if c = '\r' then ['\\', 'r']
  else if c = '\t' then ['\\', 't']
  else if c.toNat = 0 then ['\\', '0']
  else if isHidden c then codePointEscape c
  else [c]

/-- A name between double quotes. -/
def quotedText (name : String) : String :=
  String.ofList ('"' :: name.toList.flatMap quotedChar ++ ['"'])

end HoldoutLine
