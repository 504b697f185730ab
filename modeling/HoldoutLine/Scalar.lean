/-! # The arithmetic of the estimators

The estimators and error measures are written once over `Scalar`. Doubles run them; exact rationals give
the same formulas their textbook laws. The class names only what the formulas need, so an estimator
cannot depend on anything else about its numbers.
-/

namespace HoldoutLine

/-- Numbers that a line can be fitted to. -/
class Scalar (α : Type) extends Add α, Sub α, Mul α, Div α where
  zero : α
  one : α
  /-- The sum of no numbers; for doubles the negative zero, which changes no sum. -/
  emptySum : α
  ofCount : Nat → α
  magnitude : α → α
  /-- Half the distance from the largest double below two to two, `2^-52`. -/
  roundoff : α
  isFinite : α → Bool
  isZero : α → Bool
  atMost : α → α → Bool

instance : Scalar Float where
  zero := 0.0
  one := 1.0
  emptySum := -0.0
  ofCount := Float.ofNat
  magnitude := Float.abs
  roundoff := 2.220446049250313e-16
  isFinite := Float.isFinite
  isZero x := x == 0.0
  atMost x y := x ≤ y

instance : Scalar Rat where
  zero := 0
  one := 1
  emptySum := 0
  ofCount n := n
  magnitude x := if 0 ≤ x then x else -x
  roundoff := mkRat 1 (1 <<< 52)
  isFinite _ := true
  isZero x := x == 0
  atMost x y := x ≤ y

namespace Scalar

variable {α : Type} [Scalar α]

/-- The sum of a list, from left to right. -/
def sum (xs : List α) : α := xs.foldl (· + ·) emptySum

/-- The sum over the number of summands. -/
def mean (xs : List α) : α := sum xs / ofCount xs.length

def square (x : α) : α := x * x

end Scalar

end HoldoutLine
