import HoldoutLine.Decimal.Shortest

/-! # Written forms of a double

A double is written either with the fewest digits that read back, laid out as a `NumberLayout` says, or
with a fixed number of decimal places. A layout says which magnitudes are written positionally, what
marks a whole number, whether a positive exponent shows its sign, and which of two equally near decimals
is meant.
-/

namespace HoldoutLine

/-- How a number with the fewest digits is laid out. -/
structure NumberLayout where
  /-- Whether `0.d₁d₂… * 10^point` is written without an exponent. -/
  positional : Int → Bool
  /-- What follows the digits of a whole number. -/
  wholeMark : String
  /-- What stands before a positive exponent. -/
  exponentPlus : String
  tie : TieRule

namespace NumberLayout

/-- Reports and messages: never an exponent, and nothing marks a whole number. -/
def report : NumberLayout := ⟨fun _ => true, "", "", .upward⟩

/-- Log details: an exponent below `10^-4` and from `10^16` on, and whole numbers end in `.0`. -/
def detail : NumberLayout := ⟨fun point => -3 ≤ point ∧ point ≤ 16, ".0", "", .upward⟩

/-- JSON documents: an exponent below `10^-5` and from `10^16` on, always with its sign, and whole
numbers end in `.0`. -/
def json : NumberLayout := ⟨fun point => -4 ≤ point ∧ point ≤ 16, ".0", "+", .toEven⟩

end NumberLayout

namespace Decimal

def zeros (count : Nat) : List Char := List.replicate count '0'

/-- Digits with the point placed `point` places after the first one, without an exponent. -/
def positionalText (wholeMark : String) (digits : List Char) (point : Int) : List Char :=
  if point ≤ 0 then '0' :: '.' :: zeros (-point).toNat ++ digits
  else if point < digits.length then
    digits.take point.toNat ++ '.' :: digits.drop point.toNat
  else digits ++ zeros (point.toNat - digits.length) ++ wholeMark.toList

/-- One digit before the point and the power of ten after an `e`. -/
def scientificText (exponentPlus : String) (digits : List Char) (point : Int) : List Char :=
  let power := point - 1
  let sign := if power < 0 then ['-'] else exponentPlus.toList
  let fraction := digits.drop 1
  digits.take 1 ++ (if fraction.isEmpty then [] else '.' :: fraction) ++
    'e' :: sign ++ Nat.toDigits 10 power.natAbs

def text (layout : NumberLayout) (d : Decimal) : List Char :=
  let digits := Nat.toDigits 10 d.digits
  let point := d.exponent + digits.length
  if layout.positional point then positionalText layout.wholeMark digits point
  else scientificText layout.exponentPlus digits point

end Decimal

namespace Binary64

/-- A minus sign before a negative number, negative zero included. -/
def signText (negative : Bool) : List Char := if negative then ['-'] else []

def chars (layout : NumberLayout) : Binary64 → List Char
  | .notANumber => ['N', 'a', 'N']
  | .infinite negative => signText negative ++ ['i', 'n', 'f']
  | .finite negative units =>
    signText negative ++
      if units = 0 then '0' :: layout.wholeMark.toList
      else (Decimal.shortest layout.tie units).text layout

/-- The characters of a magnitude rounded to `places` decimal places, a half going to the even digit. -/
def fixedChars (places units : Nat) : List Char :=
  let scaled := roundHalfEven (units * Nat.pow 10 places) unitsPerOne
  let digits := Nat.toDigits 10 scaled
  let padded := Decimal.zeros (places + 1 - digits.length) ++ digits
  let whole := padded.length - places
  padded.take whole ++ if places = 0 then [] else '.' :: padded.drop whole

end Binary64

/-- A double written with the fewest digits that read back. -/
def NumberLayout.text (layout : NumberLayout) (x : Float) : String :=
  String.ofList ((Binary64.ofFloat x).chars layout)

/-- A double written with a fixed number of decimal places; the sign is kept even when only zeros are
left. -/
def fixedText (places : Nat) (x : Float) : String :=
  match Binary64.ofFloat x with
  | .finite negative units => String.ofList (Binary64.signText negative ++ Binary64.fixedChars places units)
  | other => String.ofList (other.chars NumberLayout.report)

end HoldoutLine
