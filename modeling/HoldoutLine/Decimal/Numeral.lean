import HoldoutLine.Binary64

/-! # Decimal numerals

The numerals that a table cell or a command-line value may hold: an optional sign, then either one of
the words `inf`, `infinity` and `nan` in any case, or digits with an optional point and an optional
power of ten. Nothing else may stand in the text, blanks included. `Numeral.toFloat` is the double
nearest to the number that is written; a number too large for a double is infinite.
-/

namespace HoldoutLine

inductive Numeral where
  | infinity
  | notANumber
  /-- The number `significand * 10^exponent`. -/
  | finite (significand : Nat) (exponent : Int)
  deriving DecidableEq, Repr

namespace Numeral

/-- The number that a run of decimal digits writes. -/
def ofDigits (digits : List Char) : Nat :=
  digits.foldl (fun n c => 10 * n + (c.toNat - '0'.toNat)) 0

/-- Split a sign off a text; no sign is a plus. -/
def splitSign : List Char → Bool × List Char
  | '-' :: rest => (true, rest)
  | '+' :: rest => (false, rest)
  | text => (false, text)

/-- The size of the power of ten that a run of digits states. Once the digits read so far make at least
`2^16`, the rest of them is not looked at: every numeral of a usual length is then infinite or zero. -/
def powerOfDigits (digits : List Char) : Nat :=
  digits.foldl (fun n c => if n < 1 <<< 16 then 10 * n + (c.toNat - '0'.toNat) else n) 0

/-- The power of ten that the rest of a numeral states; `none` if the rest states none and is not empty. -/
def exponent? : List Char → Option Int
  | [] => some 0
  | c :: rest =>
    if c = 'e' ∨ c = 'E' then
      let (negative, digits) := splitSign rest
      if digits.isEmpty ∨ !digits.all Char.isDigit then none
      else if negative then some (-(powerOfDigits digits : Int)) else some (powerOfDigits digits)
    else none

/-- Split the digits after a point off a text; without a point there are none. -/
def splitFraction : List Char → List Char × List Char
  | '.' :: rest => rest.span Char.isDigit
  | text => ([], text)

/-- Digits with an optional point, on one side of which at least one digit stands, and an optional power
of ten. -/
def finite? (text : List Char) : Option Numeral :=
  let (whole, afterWhole) := text.span Char.isDigit
  let (fraction, tail) := splitFraction afterWhole
  if whole.isEmpty ∧ fraction.isEmpty then none
  else (exponent? tail).map fun power =>
    .finite (ofDigits (whole ++ fraction)) (power - fraction.length)

/-- A numeral after its sign. -/
def unsigned? (text : List Char) : Option Numeral :=
  let folded := text.map Char.toLower
  if folded = "inf".toList ∨ folded = "infinity".toList then some .infinity
  else if folded = "nan".toList then some .notANumber
  else finite? text

/-- A whole numeral: whether it is negative, and the number. -/
def parse? (text : List Char) : Option (Bool × Numeral) :=
  let (negative, rest) := splitSign text
  (unsigned? rest).map (negative, ·)

/-- The double nearest to `± significand * 10^exponent`. The first tests keep the powers of ten small:
beyond them the number is larger than every double, or nearer to zero than to any other. -/
def nearest (negative : Bool) (significand : Nat) (exponent : Int) : Binary64 :=
  if significand = 0 then .finite negative 0
  else if 400 < exponent then .infinite negative
  else if exponent < -(400 + significand.log2 : Int) then .finite negative 0
  else if 0 ≤ exponent then Binary64.ofRatio negative (significand * Nat.pow 10 exponent.toNat) 1
  else Binary64.ofRatio negative significand (Nat.pow 10 (-exponent).toNat)

/-- What the numeral says, as an exact double. -/
def toBinary64 (negative : Bool) : Numeral → Binary64
  | .infinity => .infinite negative
  | .notANumber => .notANumber
  | .finite significand exponent => nearest negative significand exponent

/-- The double that a text writes; `none` if the text is no numeral. -/
def toFloat? (text : String) : Option Float :=
  (parse? text.toList).map fun (negative, numeral) => (numeral.toBinary64 negative).toFloat

end Numeral

end HoldoutLine
