/-! # Doubles as exact integers

A finite double is a sign and a whole number of *units*, one unit being `2^-1074`, the least positive
double. Everything the library says about the exact value of a double (its decimal text, the reading of
a numeral, the size of a held-out share) is integer arithmetic on units.

`Binary64.nearestUnits` is the one rounding to the grid of doubles; `Binary64.ofRatio` applies it to a
ratio of naturals, and `Binary64.toFloat` gives the machine number with exactly those units.
-/

namespace HoldoutLine

/-- What a double is; the magnitude of a finite one is counted exactly in units of `2^-1074`. -/
inductive Binary64 where
  | notANumber
  | infinite (negative : Bool)
  | finite (negative : Bool) (units : Nat)
  deriving DecidableEq, Repr

namespace Binary64

/-- The whole number nearest to `num / den`; an exact half goes to the even neighbour. -/
def roundHalfEven (num den : Nat) : Nat :=
  let quotient := num / den
  let twiceRest := 2 * (num % den)
  if twiceRest < den then quotient
  else if den < twiceRest then quotient + 1
  else quotient + quotient % 2

/-- The whole number nearest to `num / den`; an exact half goes up. -/
def roundHalfUp (num den : Nat) : Nat := (2 * num + den) / (2 * den)

/-- How many units make the number one. -/
def unitsPerOne : Nat := 1 <<< 1074

/-- The least magnitude, in units, that no finite double reaches. -/
def overflowUnits : Nat := 1 <<< 2098

/-- The distance, in units, from a magnitude to the next double above it. -/
def spacing (units : Nat) : Nat := 1 <<< (units.log2 - 52)

/-- The magnitude on the grid of doubles nearest to `num / den` units, ties to the even neighbour. -/
def nearestUnits (num den : Nat) : Nat :=
  let step := spacing (num / den)
  roundHalfEven num (den * step) * step

/-- A magnitude in units with a sign; one that is too large is infinite. -/
def ofUnits (negative : Bool) (units : Nat) : Binary64 :=
  if units < overflowUnits then .finite negative units else .infinite negative

/-- The double nearest to `± num / den`. -/
def ofRatio (negative : Bool) (num den : Nat) : Binary64 :=
  ofUnits negative (nearestUnits (num * unitsPerOne) den)

/-- The product of a double and a count. The count is rounded to a double first, then the product; an
infinite factor with a count of zero has none. -/
def scaleCount (count : Nat) : Binary64 → Binary64
  | .notANumber => .notANumber
  | .infinite negative => if count = 0 then .notANumber else .infinite negative
  | .finite negative units =>
    ofUnits negative (nearestUnits (units * nearestUnits (count * unitsPerOne) 1) unitsPerOne)

def maxCount : Nat := 1 <<< 64 - 1

/-- The nearest count, an exact half going up; what lies below or above all counts goes to the nearest
of them, and not-a-number to zero. -/
def roundToCount : Binary64 → Nat
  | .notANumber => 0
  | .infinite negative => if negative then 0 else maxCount
  | .finite negative units => if negative then 0 else min (roundHalfUp units unitsPerOne) maxCount

/-- Take apart the interchange format: one sign bit, eleven exponent bits, fifty-two fraction bits. -/
def ofBits (bits : Nat) : Binary64 :=
  let negative := decide (bits >>> 63 % 2 = 1)
  let exponent := bits >>> 52 % (1 <<< 11)
  let fraction := bits % (1 <<< 52)
  if exponent = 2047 then
    if fraction = 0 then .infinite negative else .notANumber
  else if exponent = 0 then .finite negative fraction
  else .finite negative ((1 <<< 52 + fraction) <<< (exponent - 1))

/-- The interchange format of a magnitude that lies on the grid of doubles. -/
def bitsOfUnits (units : Nat) : Nat :=
  let shift := units.log2 - 52
  shift <<< 52 + units >>> shift

/-- The interchange format; not-a-number is the quiet one. -/
def toBits : Binary64 → Nat
  | .notANumber => 2047 <<< 52 + 1 <<< 51
  | .infinite negative => negative.toNat <<< 63 + 2047 <<< 52
  | .finite negative units => negative.toNat <<< 63 + bitsOfUnits units

/-- What a machine double is. -/
def ofFloat (x : Float) : Binary64 := ofBits x.toBits.toNat

def toFloat (x : Binary64) : Float := Float.ofBits (UInt64.ofNat x.toBits)

end Binary64

end HoldoutLine
