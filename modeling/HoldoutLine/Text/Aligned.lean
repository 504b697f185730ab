/-! # Aligned text

Columns of a report: a text is filled with blanks up to a width counted in code points, and a longer
text is kept whole.
-/

namespace HoldoutLine

/-- The blanks that a text of this length lacks. -/
def filler (width : Nat) (text : String) : String :=
  String.ofList (List.replicate (width - text.length) ' ')

/-- Fill on the left, so that the text stands at the right edge. -/
def alignRight (width : Nat) (text : String) : String := filler width text ++ text

/-- Fill on the right, so that the text stands at the left edge. -/
def alignLeft (width : Nat) (text : String) : String := text ++ filler width text

end HoldoutLine
