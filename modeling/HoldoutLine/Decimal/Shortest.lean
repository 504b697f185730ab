import HoldoutLine.Binary64

/-! # The fewest decimal digits that read back

The reals that round to a double form an interval around it. `Decimal.shortest` walks the decimal grids
from coarse to fine and takes the first grid on which one of the two neighbours of the double lies in
that interval, so the digits read back as the same double and no coarser grid has such a point. Of two
neighbours in the interval the nearer is taken; an exact tie is left to the caller's rule.

All comparisons are between naturals: a magnitude of `u` units is `u * 5^1074` steps of `10^-1074`, and
quarters of a step make room for the ends of the interval.
-/

namespace HoldoutLine

/-- A non-negative decimal number, `digits * 10^exponent`. -/
structure Decimal where
  digits : Nat
  exponent : Int
  deriving DecidableEq, Repr

/-- Which of two equally near decimals is taken. -/
inductive TieRule where
  | toEven
  | upward
  deriving DecidableEq, Repr

/-- An interval of magnitudes; its two ends belong to it or not together. -/
structure RoundingInterval where
  low : Nat
  high : Nat
  closed : Bool
  deriving DecidableEq, Repr

namespace RoundingInterval

/-- Membership; the ends count only in a closed interval. -/
def contains (interval : RoundingInterval) (x : Nat) : Bool :=
  if interval.closed then decide (interval.low ≤ x ∧ x ≤ interval.high)
  else decide (interval.low < x ∧ x < interval.high)

/-- The magnitudes that round to `units`, in quarters of a unit. Below a power of two the doubles lie
twice as dense; the ends round to the double with the even significand. -/
def around (units : Nat) : RoundingInterval :=
  let above := Binary64.spacing units
  let below := if units = above <<< 52 ∧ 1 < above then above / 2 else above
  ⟨4 * units - 2 * below, 4 * units + 2 * above, units / above % 2 == 0⟩

/-- The same interval measured in a unit `factor` times smaller. -/
def scale (interval : RoundingInterval) (factor : Nat) : RoundingInterval :=
  { interval with low := interval.low * factor, high := interval.high * factor }

end RoundingInterval

namespace Decimal

/-- How many steps of `10^-1074` make one unit of `2^-1074`. -/
def stepsPerUnit : Nat := Nat.pow 5 1074

/-- On the grid of multiples of `step`, the neighbour of `value` that lies in the interval, as a count of
steps; `none` if neither does. -/
def onGrid? (tie : TieRule) (interval : RoundingInterval) (value step : Nat) : Option Nat :=
  let lower := value / step
  match interval.contains (lower * step), interval.contains ((lower + 1) * step) with
  | false, false => none
  | true, false => some lower
  | false, true => some (lower + 1)
  | true, true =>
    let twiceRest := 2 * (value % step)
    if twiceRest < step then some lower
    else if step < twiceRest then some (lower + 1)
    else match tie with
      | .toEven => some (lower + lower % 2)
      | .upward => some (lower + 1)

/-- The first hit on the grids of `10^k`, `10^(k-1)`, …, one step of `10^-1074` being four of the
interval's; on the last grid the value itself is a point. -/
def search (tie : TieRule) (interval : RoundingInterval) (value : Nat) : Nat → Decimal
  | 0 => ⟨value / 4, -1074⟩
  | k + 1 =>
    match onGrid? tie interval value (4 * Nat.pow 10 (k + 1)) with
    | some digits => ⟨digits, (k : Int) + 1 - 1074⟩
    | none => search tie interval value k

/-- A grid of powers of ten coarser than the value: `10^(b + 2)` is more than `2^(n + 1)` when `b` is
`n * log₁₀ 2` rounded down. -/
def coarsestGrid (value : Nat) : Nat := value.log2 * 30103 / 100000 + 2

/-- The decimal with the fewest digits that rounds to the positive magnitude `units`. -/
def shortest (tie : TieRule) (units : Nat) : Decimal :=
  let value := 4 * units * stepsPerUnit
  search tie ((RoundingInterval.around units).scale stepsPerUnit) value (coarsestGrid value)

end Decimal

end HoldoutLine
