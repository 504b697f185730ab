/-! # Student's t distribution

The distribution function of Student's t, by way of the regularised incomplete beta function: the beta
factor comes from Lanczos' approximation of the logarithm of the gamma function, the rest from the
continued fraction of the incomplete beta function, evaluated from the front until a step no longer
changes it.
-/

namespace HoldoutLine.StudentT

/-- Lanczos' coefficients after the constant term. -/
def lanczosTerms : List Float :=
  [1.05142378581721974210, -3.45687097222016235469, 4.51227709466894823700, -2.98285225323576655721,
    1.05639711577126713077, -1.95428773191645869583e-1, 1.70970543404441224307e-2,
    -5.71926117404305781283e-4, 4.63399473359905636708e-6, -2.71994908488607703910e-9]

def lanczosConstant : Float := 2.48574089138753565546e-5

def lanczosShift : Float := 10.900511

/-- The logarithm of `2 * sqrt (e / π)`. -/
def logTwoSqrtEOverPi : Float := 0.6207822376352452223455184457816472122518527279025978

def euler : Float := 2.718281828459045

/-- The logarithm of the gamma function from one half on. -/
def logGamma (x : Float) : Float :=
  let series := (lanczosTerms.zipIdx 1).foldl
    (fun total (term, k) => total + term / (x + Float.ofNat k - 1.0)) lanczosConstant
  series.log + logTwoSqrtEOverPi + (x - 0.5) * ((x - 0.5 + lanczosShift) / euler).log

/-- The step below which the continued fraction is taken as settled. -/
def accuracy : Float := 0.00000000000000011102230246251565

/-- What stands in for a denominator too near to zero. -/
def tiny : Float := 2.2250738585072014e-308 / accuracy

def guarded (x : Float) : Float := if x.abs < tiny then tiny else x

/-- The running values of the continued fraction. -/
structure Fraction where
  c : Float
  d : Float
  value : Float

/-- Append one partial numerator to the continued fraction; the value stays to be updated. -/
def Fraction.append (fraction : Fraction) (numerator : Float) : Fraction :=
  { fraction with
    c := guarded (1.0 + numerator / fraction.c)
    d := 1.0 / guarded (1.0 + numerator * fraction.d) }

/-- The continued fraction of the incomplete beta function from its `m`-th pair of steps on, at most the
given number of pairs more. -/
def betaFraction (a b x : Float) (m : Nat) : Nat → Fraction → Float
  | 0, fraction => fraction.value
  | left + 1, fraction =>
    let k := Float.ofNat m
    let twice := 2.0 * k
    let even := k * (b - k) * x / ((a - 1.0 + twice) * (a + twice))
    let fraction := fraction.append even
    let fraction := { fraction with value := fraction.value * fraction.d * fraction.c }
    let odd := -(a + k) * (a + b + k) * x / ((a + twice) * (a + 1.0 + twice))
    let fraction := fraction.append odd
    let change := fraction.d * fraction.c
    let fraction := { fraction with value := fraction.value * change }
    if (change - 1.0).abs ≤ accuracy then fraction.value
    else betaFraction a b x (m + 1) left fraction

/-- Whether a number from zero to one is one up to a few units of its last place. -/
def isNearlyOne (x : Float) : Bool :=
  (x - 1.0).abs ≤ 2.220446049250313e-16 ||
    (let bits := x.toBits.toNat
     let oneBits := (1.0 : Float).toBits.toNat
     bits ≤ oneBits + 4 && oneBits ≤ bits + 4)

/-- The regularised incomplete beta function of positive `a` and `b` at `x` from zero to one. -/
def incompleteBeta (a b x : Float) : Float :=
  let factor :=
    if x == 0.0 || isNearlyOne x then 0.0
    else (logGamma (a + b) - logGamma a - logGamma b + a * x.log + b * (1.0 - x).log).exp
  let mirrored := (a + 1.0) / (a + b + 2.0) ≤ x
  let (a, b, x) := if mirrored then (b, a, 1.0 - x) else (a, b, x)
  let d := 1.0 / guarded (1.0 - (a + b) * x / (a + 1.0))
  let area := factor * betaFraction a b x 1 140 ⟨1.0, d, d⟩ / a
  if mirrored then 1.0 - area else area

/-- Where the incomplete beta function gives the probability of the values beyond `x`. -/
def betaArgument (freedom x : Float) : Float := freedom / (freedom + x * x)

/-- The probability of a value up to `x`, with the given degrees of freedom. -/
def probabilityUpTo (freedom x : Float) : Float :=
  let tail := 0.5 * incompleteBeta (freedom / 2.0) 0.5 (betaArgument freedom x)
  if x ≤ 0.0 then tail else 1.0 - tail

/-- The distribution function with the given degrees of freedom; there is none without a positive number of
them. -/
def distribution (freedom : Float) : Option (Float → Float) :=
  if freedom.isNaN || freedom ≤ 0.0 then none else some (probabilityUpTo freedom)

/-- The probability of a value at least as far from zero as `t`, on either side, under the symmetric
distribution with the given degrees of freedom, if there is one. -/
def twoSided (distribution : Float → Option (Float → Float)) (freedom t : Float) : Option Float :=
  (distribution freedom).map fun upTo => 2.0 * (1.0 - upTo t.abs)

end HoldoutLine.StudentT
