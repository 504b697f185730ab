import HoldoutLine.Proofs.Assessment.Signs
import HoldoutLine.Proofs.Regression.Diagnostics

/-! # What Student's t is asked for a slope

Training may answer with a line that has overflowed, and the p-value divides the slope by its standard error. The guard
is the residual standard error: if that is finite, so is the sum of squared residuals, every residual in it, and the
line. Nothing else than degrees of freedom from one on and a number is therefore asked of a distribution
(`StudentT.InDomain`), and what a distribution would answer elsewhere has no effect on a fit of a trained line. Under
distributions that are centred on zero the p-value is a probability (`slopeSignificance_in_domain`).
-/

namespace HoldoutLine

open Binary64

namespace StudentT

/-- What can be asked of Student's t: degrees of freedom from one on and a number, for which the incomplete beta
function is taken between zero and one. -/
structure InDomain (freedom t : Float) : Prop where
  one_le_freedom : 1.0 ≤ freedom
  freedom_finite : freedom.isFinite = true
  number : t.isNaN = false
  argument : InUnitInterval (betaArgument freedom t.abs)

/-- Distributions for positive degrees of freedom with at least half of the probability up to zero, and so up to
whatever is not negative, infinity included. -/
structure IsCentred (distribution : Float → Option (Float → Float)) : Prop where
  defined : ∀ freedom, 0.0 < freedom → ∃ upTo, distribution freedom = some upTo
  upper_half : ∀ freedom upTo, distribution freedom = some upTo → ∀ t, 0.0 ≤ t → 0.5 ≤ upTo t ∧ upTo t ≤ 1.0

section Domain

variable {freedom t : Float} {distribution first second : Float → Option (Float → Float)}

private theorem real_pos_of_one_le (one_le : 1.0 ≤ freedom) (finite : freedom.isFinite = true) :
    0 < real freedom := by
  rw [le_iff_real isFinite_one finite, real_one] at one_le
  exact zero_lt_one.trans_le one_le

/-- Finite degrees of freedom and a number are all that the domain takes. -/
theorem inDomain_of_number (one_le : 1.0 ≤ freedom) (finite : freedom.isFinite = true) (number : t.isNaN = false) :
    InDomain freedom t := by
  have above : freedom ≤ freedom + t.abs * t.abs := le_add_of_zero_le finite (zero_le_mul_self (zero_le_abs number))
  exact ⟨one_le, finite, number, inUnitInterval_div finite (real_pos_of_one_le one_le finite) above⟩

/-- Distributions around zero give probabilities in their domain. -/
theorem IsCentred.twoSided_spec (centred : IsCentred distribution) (domain : InDomain freedom t) :
    ∃ p, twoSided distribution freedom t = some p ∧ InUnitInterval p := by
  have positive : 0.0 < freedom := by
    rw [lt_iff_real isFinite_zero domain.freedom_finite, real_zero]
    exact real_pos_of_one_le domain.one_le_freedom domain.freedom_finite
  obtain ⟨upTo, given⟩ := centred.defined freedom positive
  obtain ⟨lower, upper⟩ := centred.upper_half freedom upTo given t.abs (zero_le_abs domain.number)
  refine ⟨_, ?_, inUnitInterval_twice_rest lower upper⟩
  rw [twoSided, given]
  rfl

/-- A distribution is asked in one place only. -/
theorem twoSided_congr (agree : (first freedom).map (· t.abs) = (second freedom).map (· t.abs)) :
    twoSided first freedom t = twoSided second freedom t := by
  have answered : ∀ distribution : Float → Option (Float → Float),
      twoSided distribution freedom t = ((distribution freedom).map (· t.abs)).map fun p => 2.0 * (1.0 - p) := by
    intro distribution
    rw [Option.map_map]
    rfl
  rw [answered, answered, agree]

end Domain

end StudentT

namespace FittedLine

section Residuals

variable {line : Line Float} {x y : List Float} {residual : Float}

private theorem fittedValues_predictors (line : Line Float) (rows : List Observation) :
    fittedValues line (rows.map Observation.predictor) = line.predictAll rows := List.map_map

/-- A finite residual sum shows that the line has not overflowed. -/
theorem isFinite_of_residualSum (same : x.length = y.length) (present : x ≠ [])
    (finite : (residualSum line x y).isFinite = true) :
    line.slope.isFinite = true ∧ line.intercept.isFinite = true := by
  obtain ⟨rows, rfl, rfl⟩ : ∃ rows : List Observation,
      rows.map Observation.predictor = x ∧ rows.map Observation.target = y := by
    refine ⟨(x.zip y).map fun point => ⟨point.1, point.2⟩, ?_, ?_⟩
    · rw [List.map_map]
      exact List.map_fst_zip same.le
    · rw [List.map_map]
      exact List.map_snd_zip same.ge
  rw [residualSum, fittedValues_predictors] at finite
  exact Line.isFinite_of_squaredResiduals (mt List.map_eq_nil_iff.mpr present) finite

private theorem HasResidualError.isFinite_residual (has : HasResidualError x residual) :
    residual.isFinite = true :=
  isFinite_of_div (isFinite_of_sqrt has.finite)

private theorem AsksDistribution.real_error_pos (asks : AsksDistribution x residual) :
    0 < real (slopeError x residual) := by
  have positive := asks.error_pos
  rwa [lt_iff_real isFinite_zero asks.error_finite, real_zero] at positive

/-- Infinite degrees of freedom would leave no standard error. -/
theorem AsksDistribution.isFinite_freedom (asks : AsksDistribution x residual) : (freedom x).isFinite = true := by
  rcases (le_iff_of_isFinite isFinite_one (freedom x)).mp (one_le_freedom asks.enough) with ⟨finite, -⟩ | infinite
  · exact finite
  · obtain ⟨sign, quotient⟩ := div_infinity asks.isFinite_residual infinite
    have zero : real (slopeError x residual) = 0 := div_of_zero (sqrt_of_zero quotient) asks.error_finite
    exact (asks.real_error_pos.ne' zero).elim

/-- What holds whenever a distribution is asked for a slope. -/
structure AsksInDomain (line : Line Float) (x : List Float) (residual : Float) : Prop
    extends AsksDistribution x residual where
  slope_finite : line.slope.isFinite = true
  in_domain : StudentT.InDomain (freedom x) (line.slope / slopeError x residual)
  defined : ∃ upTo, StudentT.distribution (freedom x) = some upTo

private theorem AsksDistribution.inDomain (asks : AsksDistribution x (residualSum line x y))
    (trained : Line.train x y = .ok line) : AsksInDomain line x (residualSum line x y) := by
  obtain ⟨⟨same, -⟩, enough⟩ := Line.comparable_of_train trained
  have present : x ≠ [] := List.length_pos_iff.mp (by omega)
  obtain ⟨slope, -⟩ := isFinite_of_residualSum same present asks.isFinite_residual
  have number := (isNearest_div slope asks.error_finite asks.real_error_pos.ne').isNaN
  exact ⟨asks, slope, StudentT.inDomain_of_number (one_le_freedom asks.enough) asks.isFinite_freedom number,
    ⟨_, distribution_freedom asks.enough⟩⟩

end Residuals

section PValue

variable {line : Line Float} {x y : List Float}

/-- The p-value of a trained line's slope, for any columns that it was trained on. Where a distribution is asked for it,
that is in its domain; elsewhere the answers of the distribution make no difference; and the p-value is a probability
if the distribution is centred. -/
theorem slopeSignificance_in_domain (trained : Line.train x y = .ok line) :
    ((∀ distribution, (slopeSignificance distribution x line (residualSum line x y)).2 = none) ∨
        AsksInDomain line x (residualSum line x y)) ∧
      (∀ first second : Float → Option (Float → Float),
        (∀ freedom t, StudentT.InDomain freedom t → (first freedom).map (· t.abs) = (second freedom).map (· t.abs)) →
        slopeSignificance first x line (residualSum line x y) =
          slopeSignificance second x line (residualSum line x y)) ∧
      ∀ distribution, StudentT.IsCentred distribution → AsksDistribution x (residualSum line x y) →
        ∃ p, (slopeSignificance distribution x line (residualSum line x y)).2 = some p ∧ InUnitInterval p := by
  rcases slopeSignificance_cases x line (residualSum line x y) with
    ⟨lacks, given⟩ | ⟨-, flat, given⟩ | ⟨asks, given⟩
  · refine ⟨.inl fun distribution => ?_, fun first second _ => ?_, fun distribution _ asks => ?_⟩
    · rw [given]
    · rw [given, given]
    · exact (lacks asks.toHasResidualError).elim
  · refine ⟨.inl fun distribution => ?_, fun first second _ => ?_, fun distribution _ asks => (flat asks).elim⟩
    · rw [given]
    · rw [given, given]
  · have domain := (asks.inDomain trained).in_domain
    refine ⟨.inr (asks.inDomain trained), fun first second agree => ?_, fun distribution centred _ => ?_⟩
    · rw [given, given, StudentT.twoSided_congr (agree _ _ domain)]
    · rw [given]
      exact centred.twoSided_spec domain

/-- The distribution of Student's t with two degrees of freedom, which has a closed form, for what is not negative. -/
def twoDegrees (_freedom : Float) : Option (Float → Float) :=
  some fun t => 0.5 + 0.5 * (1.0 - StudentT.betaArgument 2.0 t).sqrt

private theorem isCentred_twoDegrees : StudentT.IsCentred twoDegrees where
  defined := fun _ _ => ⟨_, rfl⟩
  upper_half := by
    intro freedom upTo given t nonneg
    cases given
    have positive : 0 < real 2.0 := by rw [real_two]; norm_num
    have above : 2.0 ≤ 2.0 + t * t := le_add_of_zero_le isFinite_two (zero_le_mul_self nonneg)
    exact (inUnitInterval_div isFinite_two positive above).rest.sqrt.upper_half

def overflowingTargets : List Float := [1e308, 1e308, 1e308]

/-- No distribution is asked about a slope that is not a number; one is about the slope of scattered rows. -/
theorem scatteredRows_in_domain :
    (∃ line : Line Float, Line.train [1.0, 2.0, 3.0] overflowingTargets = .ok line ∧ line.slope.isNaN = true ∧
      ∀ distribution, (slopeSignificance distribution [1.0, 2.0, 3.0] line
        (residualSum line [1.0, 2.0, 3.0] overflowingTargets)).2 = none) ∧
      AsksInDomain scatteredLine scatteredPredictors
        (residualSum scatteredLine scatteredPredictors scatteredTargets) ∧
      ∃ p, (slopeSignificance twoDegrees scatteredPredictors scatteredLine
        (residualSum scatteredLine scatteredPredictors scatteredTargets)).2 = some p ∧ InUnitInterval p := by
  have overflowed : Line.train [1.0, 2.0, 3.0] overflowingTargets = .ok ⟨0.0 / 0.0, 0.0 / 0.0⟩ := by decide +kernel
  have notANumber : (0.0 / 0.0 : Float).isNaN = true := by decide +kernel
  have trained : Line.train scatteredPredictors scatteredTargets = .ok scatteredLine := by decide +kernel
  obtain ⟨asked, -, probability⟩ := slopeSignificance_in_domain trained
  obtain ⟨p, given, within⟩ := probability twoDegrees isCentred_twoDegrees asksDistribution_scattered
  refine ⟨⟨_, overflowed, notANumber, ?_⟩, ?_, p, given, within⟩
  · rcases (slopeSignificance_in_domain overflowed).1 with unasked | asked
    · exact unasked
    · exact (not_isFinite_of_isNaN notANumber asked.slope_finite).elim
  · rcases asked with unasked | asked
    · rw [unasked] at given
      cases given
    · exact asked

end PValue

end FittedLine

end HoldoutLine
