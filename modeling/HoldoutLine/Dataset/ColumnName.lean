import HoldoutLine.Text.Blank
import HoldoutLine.Text.Lowercase

/-! # Column names

A header cell such as `# Midterm (max 125)` names its column `midterm`: remarks from the first opening
parenthesis on and number signs are dropped, blanks at the ends are trimmed, spaces inside become
underscores, and capitals become small.
-/

namespace HoldoutLine

/-- The name that the characters of a header cell give to a column. -/
def cleanNameChars (cell : List Char) : List Char :=
  let remarkless := (cell.takeWhile (· ≠ '(')).filter (· ≠ '#')
  lowercase ((trimBlanks remarkless).map fun c => if c = ' ' then '_' else c)

def cleanName (cell : String) : String := String.ofList (cleanNameChars cell.toList)

end HoldoutLine
