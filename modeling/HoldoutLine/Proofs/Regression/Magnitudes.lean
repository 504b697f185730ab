import HoldoutLine.Proofs.Assessment.Signs
import HoldoutLine.Proofs.Binary64.Exact
import HoldoutLine.Proofs.Regression.Training

/-! # How far moderate values lead

Values are moderate if they are zero or of a magnitude from `2^-40` to `2^40`. Of a million millions of moderate rows
no mean, no sum of squares and no coefficient comes near the limit of the doubles: the refusal of a predictor that
varies too little bounds its sum of squared deviations from below, and so the slope from above. A sum of squared
deviations of targets that is not zero is bounded from below as well, since means of moderate values have a last
place; that bounds R².
-/

namespace HoldoutLine

open Binary64

/-- Zero, or of a magnitude from `2^-40` to `2^40`. -/
def Binary64.isModerate : Binary64 → Bool
  | .finite _ units => units == 0 || (1 <<< 1034 ≤ units && units ≤ 1 <<< 1114)
  | _ => false

def Observation.isModerate (row : Observation) : Bool :=
  (ofFloat row.predictor).isModerate && (ofFloat row.target).isModerate

section Values

variable {x : Float}

/-- What is moderate, in real numbers. -/
structure Moderate (x : Float) : Prop where
  within : Within 40 x
  zero_or_above : real x = 0 ∨ 2 ^ (-40 : ℤ) ≤ |real x|

private theorem moderate_of_isModerate (moderate : (ofFloat x).isModerate = true) : Moderate x := by
  cases parts : ofFloat x with
  | notANumber => rw [parts] at moderate; cases moderate
  | infinite => rw [parts] at moderate; cases moderate
  | finite negative units =>
    rw [parts, isModerate, Bool.or_eq_true, beq_iff_eq, Bool.and_eq_true, decide_eq_true_iff, decide_eq_true_iff]
      at moderate
    have finite : x.isFinite = true := (isFinite_iff x).mpr ⟨_, _, parts⟩
    have magnitude := abs_real_of_finite parts
    rcases moderate with rfl | ⟨above, below⟩
    · rw [Nat.cast_zero, zero_mul] at magnitude
      refine ⟨⟨finite, ?_⟩, .inl (abs_eq_zero.mp magnitude)⟩
      rw [magnitude]
      positivity
    · have lower : (2 : ℝ) ^ (-40 : ℤ) ≤ |real x| := by
        rw [magnitude, show (-40 : ℤ) = (1034 : ℕ) - 1074 from rfl, ← shift_mul_unit]
        exact mul_le_mul_of_nonneg_right (Nat.cast_le.mpr above) unit_pos.le
      have upper : |real x| ≤ (2 : ℝ) ^ (40 : ℤ) := by
        rw [magnitude, show (40 : ℤ) = (1114 : ℕ) - 1074 from rfl, ← shift_mul_unit]
        exact mul_le_mul_of_nonneg_right (Nat.cast_le.mpr below) unit_pos.le
      exact ⟨⟨finite, upper⟩, .inr lower⟩

private theorem Moderate.isMultiple (moderate : Moderate x) : IsMultiple (-92) (real x) := by
  rcases moderate.zero_or_above with zero | above
  · rw [zero]
    exact isMultiple_zero _
  · exact isMultiple_of_le moderate.within.1 (by norm_num) above

end Values

section Columns

variable {xs : List Float}

/-- The mean is the nearest double to the sum over the count. -/
theorem isNearest_mean (finite : (total (-0.0) xs).isFinite = true) (present : xs ≠ []) (few : xs.length ≤ 2 ^ 53) :
    IsNearest (Scalar.mean xs) (real (total (-0.0) xs) / xs.length) := by
  obtain ⟨finiteCount, exact⟩ := isFinite_of_count (isNearest_ofNat xs.length) few
  have positive : (0 : ℝ) < xs.length := Nat.cast_pos.mpr (List.length_pos_iff.mpr present)
  rw [← exact]
  exact isNearest_div finite finiteCount (exact ▸ positive.ne')

/-- The mean of moderate values is no larger than they are, and has a last place. -/
theorem mean_of_moderate (moderate : ∀ x ∈ xs, Moderate x) (present : xs ≠ []) (few : xs.length ≤ 2 ^ 40) :
    Within 40 (Scalar.mean xs) ∧ IsMultiple (-184) (real (Scalar.mean xs)) := by
  have positive : (0 : ℝ) < xs.length := Nat.cast_pos.mpr (List.length_pos_iff.mpr present)
  have count_le : (xs.length : ℝ) ≤ 2 ^ (40 : ℤ) := by exact_mod_cast few
  obtain ⟨finite, bound⟩ := total_within isFinite_negZero real_negZero (fun x member => (moderate x member).within) few
    (by norm_num) (by norm_num)
  have multiple := isMultiple_total (k := -92) finite (real_negZero ▸ isMultiple_zero _)
    (fun x member => (moderate x member).isMultiple) (by norm_num)
  have near := isNearest_mean finite present (few.trans (by norm_num))
  have within : Within 40 (Scalar.mean xs) := by
    refine near.within ?_ (by norm_num) (by norm_num)
    rw [abs_div, Nat.abs_cast, div_le_iff₀ positive, mul_comm]
    exact bound
  refine ⟨within, ?_⟩
  -- A quotient need not be a multiple of anything, but its double is: it is zero, or so large that it ends by then.
  by_cases zero : real (total (-0.0) xs) = 0
  · rw [near.real_eq within.1, zero, zero_div, rounded_zero]
    exact isMultiple_zero _
  · have least := multiple.le_abs zero
    have quotient : (2 : ℝ) ^ (-132 : ℤ) ≤ |real (total (-0.0) xs) / xs.length| := by
      rw [abs_div, Nat.abs_cast, le_div_iff₀ positive]
      calc (2 : ℝ) ^ (-132 : ℤ) * xs.length ≤ 2 ^ (-132 : ℤ) * 2 ^ (40 : ℤ) :=
            mul_le_mul_of_nonneg_left count_le (by positivity)
        _ = 2 ^ (-92 : ℤ) := by rw [← zpow_add₀ two_ne_zero]; rfl
        _ ≤ |real (total (-0.0) xs)| := least
    exact isMultiple_of_le within.1 (by norm_num)
      (near.le_abs_real within.1 (onLine_zpow (by norm_num)) quotient)

/-- The mean of zeros is zero. -/
theorem real_mean_of_zeros (zeros : ∀ x ∈ xs, real x = 0) (finite : (Scalar.mean xs).isFinite = true)
    (present : xs ≠ []) (few : xs.length ≤ 2 ^ 40) : real (Scalar.mean xs) = 0 := by
  have finiteSum : (total (-0.0) xs).isFinite = true := isFinite_of_div finite
  have near := isNearest_mean finiteSum present (few.trans (by norm_num))
  rw [real_total_eq_zero finiteSum real_negZero zeros, zero_div] at near
  exact (near.real_eq finite).trans rounded_zero

private theorem ofFloat_roundoff :
    ofFloat (Scalar.roundoff : Float) = .finite false (1 <<< 1022) := by decide +kernel

private theorem real_roundoff : real (Scalar.roundoff : Float) = 2 ^ (-52 : ℤ) := by
  rw [real_of_finite ofFloat_roundoff, shift_mul_unit]
  exact one_mul _

private theorem within_roundoff : Within (-52) (Scalar.roundoff : Float) := by
  refine ⟨(isFinite_iff _).mpr ⟨_, _, ofFloat_roundoff⟩, ?_⟩
  rw [real_roundoff, abs_of_pos (by positivity)]

/-- A deviation from the mean keeps a last place of its own. -/
theorem deviation_of_moderate {x center : Float} (moderate : Moderate x) (within : Within 40 center)
    (multiple : IsMultiple (-184) (real center)) :
    Within 41 (x - center) ∧ IsMultiple (-184) (real (x - center)) := by
  have deviation := moderate.within.sub within (by norm_num) (by norm_num)
  refine ⟨deviation, ?_⟩
  rw [(isNearest_sub moderate.within.1 within.1).real_eq deviation.1]
  exact ((moderate.isMultiple.mono (by norm_num)).sub multiple).rounded (by norm_num)

/-- Squares of multiples of a power of two are zero, or no smaller than its square. -/
theorem le_real_mul_self {x : Float} {power : ℤ} (finite : (x * x).isFinite = true)
    (multiple : IsMultiple power (real x)) (least : -537 ≤ power) (nonzero : real (x * x) ≠ 0) :
    2 ^ (2 * power) ≤ real (x * x) := by
  obtain ⟨factor, -⟩ := isFinite_of_mul finite
  have above := multiple.le_abs fun zero => nonzero ((real_mul_self finite).2 zero)
  refine (isNearest_mul factor factor).le_real finite (onLine_zpow (by omega)) ?_
  rw [two_mul, zpow_add₀ two_ne_zero, ← abs_mul_abs_self (real x)]
  exact mul_self_le_mul_self (by positivity) above

/-- A sum of squares of up to `2^40` multiples of a power of two is zero, or no smaller than the square of the
power. -/
theorem le_total_squares {start : Float} {power : ℤ} {ys : List Float} (base : real start = 0)
    (finite : (total start (ys.map fun y => y * y)).isFinite = true) (multiples : ∀ y ∈ ys, IsMultiple power (real y))
    (least : -537 ≤ power) (nonzero : real (total start (ys.map fun y => y * y)) ≠ 0) :
    2 ^ (2 * power) ≤ real (total start (ys.map fun y => y * y)) := by
  obtain ⟨y, member, positive⟩ : ∃ y ∈ ys, real (y * y) ≠ 0 := by
    by_contra none
    refine nonzero (real_total_eq_zero finite base (List.forall_mem_map.mpr fun y member => ?_))
    by_contra positive
    exact none ⟨y, member, positive⟩
  obtain ⟨finiteSquare, below⟩ := square_le_total base finite member
  exact (le_real_mul_self finiteSquare (multiples y member) least positive).trans below

/-- Sums of squares within a power of two. -/
theorem total_squares_within {start : Float} {k : ℤ} {ys : List Float} (finite : start.isFinite = true)
    (base : real start = 0) (within : ∀ y ∈ ys, Within k y) (few : ys.length ≤ 2 ^ 40)
    (least : -537 ≤ k) (room : 2 * k + 40 < 1024) :
    Within (2 * k + 40) (total start (ys.map fun y => y * y)) := by
  refine within_total finite base ?_ (by rwa [List.length_map]) (by omega) room
  refine List.forall_mem_map.mpr fun y member => ?_
  have square := (within y member).mul (within y member) (by omega) (by omega)
  rwa [← two_mul] at square

/-- The squared deviations of moderate values have a finite sum; it is zero, or not too small to divide by. -/
theorem squaredDeviations_of_moderate (moderate : ∀ x ∈ xs, Moderate x) (present : xs ≠ [])
    (few : xs.length ≤ 2 ^ 40) :
    Within 122 (Metrics.squaredDeviations xs) ∧
      (real (Metrics.squaredDeviations xs) ≠ 0 → 2 ^ (-368 : ℤ) ≤ |real (Metrics.squaredDeviations xs)|) := by
  obtain ⟨center, multiple⟩ := mean_of_moderate moderate present few
  have deviations : ∀ d ∈ xs.map fun x => x - Scalar.mean xs, Within 41 d ∧ IsMultiple (-184) (real d) :=
    List.forall_mem_map.mpr fun x member => deviation_of_moderate (moderate x member) center multiple
  rw [squaredDeviations_eq_total]
  have within := total_squares_within (k := 41) isFinite_negZero real_negZero
    (fun d member => (deviations d member).1) (by rwa [List.length_map]) (by norm_num) (by norm_num)
  refine ⟨within, fun nonzero => ?_⟩
  have above := le_total_squares real_negZero within.1 (fun d member => (deviations d member).2) (by norm_num) nonzero
  exact above.trans (le_abs_self _)

end Columns

section Spread

variable {rows : List Observation}

/-- The sums of squares are totals over the points. -/
theorem foldl_spread_add (meanX meanY : Float) (points : List (Float × Float)) (spread : Spread Float) :
    points.foldl (Spread.add meanX meanY) spread =
      ⟨total spread.xx (points.map fun point => (point.1 - meanX) * (point.1 - meanX)),
        total spread.xy (points.map fun point => (point.1 - meanX) * (point.2 - meanY)),
        total spread.squares (points.map fun point => point.1 * point.1)⟩ := by
  induction points generalizing spread with
  | nil => rfl
  | cons point points ih => exact ih (spread.add meanX meanY point)

/-- The mean of the targets, as training computes it. -/
theorem sum_div_eq_mean (rows : List Observation) :
    Scalar.sum (rows.map Observation.target) / Scalar.ofCount (rows.map Observation.predictor).length =
      Scalar.mean (rows.map Observation.target) := by
  rw [Scalar.mean, List.length_map, List.length_map]

def deviations (rows : List Observation) : List Float :=
  (rows.map Observation.predictor).map fun x => x - Scalar.mean (rows.map Observation.predictor)

/-- The sums of squares that training on rows rests on. -/
def spread (rows : List Observation) : Spread Float :=
  Line.spreadOf (rows.map Observation.predictor) (rows.map Observation.target)

private theorem spread_eq (rows : List Observation) :
    spread rows =
      ⟨total 0.0 ((deviations rows).map fun d => d * d),
        total 0.0 (rows.map fun row => (row.predictor - Scalar.mean (rows.map Observation.predictor)) *
          (row.target - Scalar.mean (rows.map Observation.target))),
        total 0.0 ((rows.map Observation.predictor).map fun x => x * x)⟩ := by
  rw [spread, Line.spreadOf, Spread.ofColumns, foldl_spread_add, sum_div_eq_mean, List.zip_map', List.map_map,
    List.map_map, List.map_map, deviations, List.map_map, List.map_map, List.map_map]
  rfl

/-- What moderate rows give to training. -/
structure ModerateRows (rows : List Observation) : Prop where
  predictors : ∀ x ∈ rows.map Observation.predictor, Moderate x
  targets : ∀ y ∈ rows.map Observation.target, Moderate y
  few : rows.length ≤ 2 ^ 40
  present : rows ≠ []

theorem moderateRows_of_isModerate (moderate : ∀ row ∈ rows, row.isModerate = true) (few : rows.length ≤ 2 ^ 40)
    (present : rows ≠ []) : ModerateRows rows where
  predictors := List.forall_mem_map.mpr fun row member =>
    moderate_of_isModerate (Bool.and_eq_true_iff.mp (moderate row member)).1
  targets := List.forall_mem_map.mpr fun row member =>
    moderate_of_isModerate (Bool.and_eq_true_iff.mp (moderate row member)).2
  few := few
  present := present

namespace ModerateRows

private theorem map_ne_nil (moderate : ModerateRows rows) (column : Observation → Float) :
    rows.map column ≠ [] :=
  mt List.map_eq_nil_iff.mp moderate.present

private theorem length_map_le (moderate : ModerateRows rows) (column : Observation → Float) :
    (rows.map column).length ≤ 2 ^ 40 :=
  List.length_map column ▸ moderate.few

theorem meanX (moderate : ModerateRows rows) :
    Within 40 (Scalar.mean (rows.map Observation.predictor)) ∧
      IsMultiple (-184) (real (Scalar.mean (rows.map Observation.predictor))) :=
  mean_of_moderate moderate.predictors (moderate.map_ne_nil _) (moderate.length_map_le _)

theorem meanY (moderate : ModerateRows rows) :
    Within 40 (Scalar.mean (rows.map Observation.target)) ∧
      IsMultiple (-184) (real (Scalar.mean (rows.map Observation.target))) :=
  mean_of_moderate moderate.targets (moderate.map_ne_nil _) (moderate.length_map_le _)

private theorem within_deviations (moderate : ModerateRows rows) : ∀ d ∈ deviations rows, Within 41 d :=
  List.forall_mem_map.mpr fun x member =>
    (deviation_of_moderate (moderate.predictors x member) moderate.meanX.1 moderate.meanX.2).1

private theorem within_xx (moderate : ModerateRows rows) :
    Within 122 (spread rows).xx := by
  rw [spread_eq]
  exact total_squares_within (k := 41) isFinite_zero real_zero moderate.within_deviations
    ((List.length_map _).trans_le (moderate.length_map_le _)) (by norm_num) (by norm_num)

private theorem within_xy (moderate : ModerateRows rows) :
    Within 122 (spread rows).xy := by
  rw [spread_eq]
  refine within_total (k := 82) isFinite_zero real_zero ?_ (moderate.length_map_le _) (by norm_num) (by norm_num)
  refine List.forall_mem_map.mpr fun row member => ?_
  have left := deviation_of_moderate (moderate.predictors _ (List.mem_map_of_mem member)) moderate.meanX.1
    moderate.meanX.2
  have right := deviation_of_moderate (moderate.targets _ (List.mem_map_of_mem member)) moderate.meanY.1
    moderate.meanY.2
  exact left.1.mul right.1 (by norm_num) (by norm_num)

private theorem within_squares (moderate : ModerateRows rows) :
    Within 120 (spread rows).squares := by
  rw [spread_eq]
  exact total_squares_within (k := 40) isFinite_zero real_zero
    (fun x member => (moderate.predictors x member).within) (moderate.length_map_le _) (by norm_num) (by norm_num)

/-- Predictors that are all zero do not vary. -/
theorem real_xx_of_zeros (moderate : ModerateRows rows) (zeros : ∀ x ∈ rows.map Observation.predictor, real x = 0) :
    real (spread rows).xx = 0 := by
  have finite := moderate.within_xx.1
  have center := real_mean_of_zeros zeros moderate.meanX.1.1 (moderate.map_ne_nil _) (moderate.length_map_le _)
  rw [spread_eq] at finite ⊢
  have squares := List.forall_mem_map.mp (isFinite_of_total finite).2
  refine real_total_eq_zero finite real_zero (List.forall_mem_map.mpr fun d member => ?_)
  refine (real_mul_self (squares d member)).2 ?_
  obtain ⟨x, here, rfl⟩ := List.mem_map.mp member
  have deviation := (moderate.within_deviations _ member).1
  obtain ⟨finiteX, finiteMean⟩ := isFinite_of_sub deviation
  rw [(isNearest_sub finiteX finiteMean).real_eq deviation, zeros x here, center, sub_zero, rounded_zero]

/-- One predictor that is not zero bounds the sum of the squares. -/
theorem le_squares (moderate : ModerateRows rows) {x : Float} (member : x ∈ rows.map Observation.predictor)
    (nonzero : real x ≠ 0) :
    2 ^ (-80 : ℤ) ≤ real (spread rows).squares := by
  have finite := moderate.within_squares.1
  rw [spread_eq] at finite ⊢
  obtain ⟨finiteSquare, below⟩ := square_le_total real_zero finite member
  have above : (2 : ℝ) ^ (-40 : ℤ) ≤ |real x| := (moderate.predictors x member).zero_or_above.resolve_left nonzero
  have square : (2 : ℝ) ^ (-80 : ℤ) ≤ real (x * x) := by
    have factor := (moderate.predictors x member).within.1
    refine (isNearest_mul factor factor).le_real finiteSquare (onLine_zpow (by norm_num)) ?_
    rw [show (-80 : ℤ) = -40 + -40 from rfl, zpow_add₀ two_ne_zero, ← abs_mul_abs_self (real x)]
    exact mul_self_le_mul_self (by positivity) above
  exact square.trans below

/-- Training divides by no less than the rounding of the squares. -/
theorem le_xx (moderate : ModerateRows rows) (spreads : FittedLine.lacksSpread rows = false) :
    2 ^ (-132 : ℤ) ≤ |real (spread rows).xx| := by
  have finite := moderate.within_xx.1
  have squares := moderate.within_squares
  change (spread rows).isDegenerate = false at spreads
  rw [Spread.isDegenerate, Bool.or_eq_false_iff, Bool.or_eq_false_iff] at spreads
  obtain ⟨⟨-, nonzero⟩, exceeds⟩ := spreads
  -- The limit is relative to the squares, so it takes a predictor other than zero to bound it from below.
  obtain ⟨x, member, varied⟩ : ∃ x ∈ rows.map Observation.predictor, real x ≠ 0 := by
    by_contra none
    have zero := moderate.real_xx_of_zeros fun x member => by
      by_contra varied
      exact none ⟨x, member, varied⟩
    exact Bool.false_ne_true (nonzero.symm.trans ((isZero_iff _).mpr ⟨finite, zero⟩))
  have limit := within_roundoff.mul squares (by norm_num) (by norm_num)
  have rounding : (2 : ℝ) ^ (-132 : ℤ) ≤ real (Scalar.roundoff * (spread rows).squares) := by
    refine (isNearest_mul within_roundoff.1 squares.1).le_real limit.1 (onLine_zpow (by norm_num)) ?_
    rw [real_roundoff, show (-132 : ℤ) = -52 + -80 from rfl, zpow_add₀ two_ne_zero]
    exact mul_le_mul_of_nonneg_left (moderate.le_squares member varied) (by positivity)
  have above : ¬(spread rows).xx ≤ Scalar.roundoff * (spread rows).squares := of_decide_eq_false exceeds
  rw [le_iff_real finite limit.1, not_le] at above
  exact (rounding.trans above.le).trans (le_abs_self _)

end ModerateRows

end Spread

section Lines

variable {rows : List Observation} {row : Observation}

/-- The line of rows. -/
theorem fitted_line (rows : List Observation) :
    (FittedLine.fitted rows).line =
      ⟨Scalar.mean (rows.map Observation.target) -
          (spread rows).xy / (spread rows).xx * Scalar.mean (rows.map Observation.predictor),
        (spread rows).xy / (spread rows).xx⟩ := by
  rw [FittedLine.fitted, FittedLine.diagnose, Line.leastSquares, sum_div_eq_mean]
  rfl

namespace ModerateRows

private theorem within_slope (moderate : ModerateRows rows) (spreads : FittedLine.lacksSpread rows = false) :
    Within 254 (FittedLine.fitted rows).line.slope := by
  rw [fitted_line]
  exact moderate.within_xy.div moderate.within_xx.1 (moderate.le_xx spreads) (by norm_num) (by norm_num)

private theorem within_intercept (moderate : ModerateRows rows)
    (spreads : FittedLine.lacksSpread rows = false) : Within 295 (FittedLine.fitted rows).line.intercept := by
  have slope := moderate.within_slope spreads
  rw [fitted_line] at slope ⊢
  have product : Within 294 _ := slope.mul moderate.meanX.1 (by norm_num) (by norm_num)
  exact (moderate.meanY.1.mono (by norm_num)).sub product (by norm_num) (by norm_num)

/-- The line of moderate rows is not far from any moderate row. -/
theorem within_residual (moderate : ModerateRows rows) (spreads : FittedLine.lacksSpread rows = false)
    (predictor : Moderate row.predictor) (target : Moderate row.target) :
    Within 297 ((FittedLine.fitted rows).line.residual row) := by
  have product : Within 294 _ := (moderate.within_slope spreads).mul predictor.within (by norm_num) (by norm_num)
  have predicted : Within 296 _ :=
    (product.mono (by norm_num)).add (moderate.within_intercept spreads) (by norm_num) (by norm_num)
  exact (target.within.mono (by norm_num)).sub predicted (by norm_num) (by norm_num)

variable {others : List Observation}

/-- The squares of what the line of moderate rows leaves of others have a finite sum. -/
theorem within_squaredResiduals (moderate : ModerateRows rows) (spreads : FittedLine.lacksSpread rows = false)
    (moderateOthers : ModerateRows others) :
    Within 634 (Metrics.squaredResiduals (others.map Observation.target)
      ((FittedLine.fitted rows).line.predictAll others)) := by
  rw [Line.squaredResiduals_predictAll]
  refine total_squares_within (k := 297) isFinite_negZero real_negZero ?_
    (moderateOthers.length_map_le _) (by norm_num) (by norm_num)
  exact List.forall_mem_map.mpr fun row member => moderate.within_residual spreads
    (moderateOthers.predictors _ (List.mem_map_of_mem member)) (moderateOthers.targets _ (List.mem_map_of_mem member))

/-- R² of the line of moderate rows on others is finite where it is defined. -/
theorem isFinite_share (moderate : ModerateRows rows) (spreads : FittedLine.lacksSpread rows = false)
    (moderateOthers : ModerateRows others) {share : Float}
    (explained : Assessment.shareExplained (others.map Observation.target)
      ((FittedLine.fitted rows).line.predictAll others) = .value share) : share.isFinite = true := by
  obtain ⟨within, above⟩ := squaredDeviations_of_moderate moderateOthers.targets
    (moderateOthers.map_ne_nil _) (moderateOthers.length_map_le _)
  have residuals := moderate.within_squaredResiduals spreads moderateOthers
  rw [Assessment.shareExplained] at explained
  split_ifs at explained with flat
  cases explained
  have varied : real (Metrics.squaredDeviations (others.map Observation.target)) ≠ 0 := fun zero =>
    flat ((isZero_iff _).mpr ⟨within.1, zero⟩)
  have quotient : Within 1002 _ := residuals.div within.1 (above varied) (by norm_num) (by norm_num)
  exact ((within_one.mono (by norm_num)).sub quotient (by norm_num) (by norm_num)).1

end ModerateRows

end Lines

end HoldoutLine
