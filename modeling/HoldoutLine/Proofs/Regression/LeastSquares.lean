import HoldoutLine.Proofs.Regression.ExactSums
import HoldoutLine.Proofs.Regression.Training

/-! # The trained line over exact numbers

With exact numbers for doubles, training is the textbook's least-squares fit. Deviations from a mean sum to zero, so
the line through the point of means with the slope of the centred sums has residuals that sum to zero and are orthogonal
to the predictor (`isNormal_leastSquares`). Any other line then misses by the squares of these residuals and by those of
the difference of the two lines (`Line.IsNormal.sum_squares`), which is not zero where the predictor varies. The share
of variance explained is the case of the horizontal line.
-/

namespace HoldoutLine

def centredProducts (x y : List ℚ) : ℚ := (List.zipWith (fun u v => (u - average x) * (v - average y)) x y).sum

/-- How far the points of two columns are above a line. -/
def Line.misses (line : Line ℚ) (x y : List ℚ) : List ℚ :=
  List.zipWith (fun u v => v - (line.slope * u + line.intercept)) x y

section Misses

variable {x y : List ℚ} {line : Line ℚ}

/-- How far the point of means is above a line. -/
def Line.centralMiss (line : Line ℚ) (x y : List ℚ) : ℚ := average y - line.predict (average x)

private theorem misses_columns (line : Line ℚ) (points : List (ℚ × ℚ)) :
    line.misses (points.map Prod.fst) (points.map Prod.snd) = points.map fun p => p.2 - line.predict p.1 :=
  zipWith_columns _ points

private theorem sum_deviations_columns {points : List (ℚ × ℚ)} (present : points ≠ []) (column : ℚ × ℚ → ℚ) :
    (points.map fun p => column p - average (points.map column)).sum = 0 := by
  have filled : points.map column ≠ [] := by simpa using present
  have zero := sum_deviations filled
  rwa [List.map_map] at zero

/-- Together, points are as far above a line as their number times the point of means is. -/
theorem sum_misses (line : Line ℚ) (present : x ≠ []) (same : x.length = y.length) :
    (line.misses x y).sum = x.length * line.centralMiss x y := by
  obtain ⟨points, rfl, rfl⟩ := exists_points same
  have some : points ≠ [] := by simpa using present
  have dx := sum_deviations_columns some Prod.fst
  have dy := sum_deviations_columns some Prod.snd
  rw [misses_columns, Line.centralMiss]
  generalize average (points.map Prod.fst) = mx at dx ⊢
  generalize average (points.map Prod.snd) = my at dy ⊢
  have parts : ∀ p : ℚ × ℚ, p.2 - line.predict p.1 =
      (p.2 - my) + (-line.slope * (p.1 - mx) + (my - line.predict mx)) := by
    intro p
    simp only [Line.predict]
    ring
  simp only [parts, List.sum_map_add, List.sum_map_mul_left, dx, dy, List.map_const', List.sum_replicate,
    List.length_map, nsmul_eq_mul]
  ring

/-- Weighted by the predictor, they are so by what the slope lacks, and by the point of means. -/
theorem sum_mul_misses (line : Line ℚ) (present : x ≠ []) (same : x.length = y.length) :
    (List.zipWith (· * ·) x (line.misses x y)).sum =
      centredProducts x y - line.slope * centredSquares x + average x * (x.length * line.centralMiss x y) := by
  rw [← sum_misses line present same]
  obtain ⟨points, rfl, rfl⟩ := exists_points same
  have some : points ≠ [] := by simpa using present
  have dx := sum_deviations_columns some Prod.fst
  have weighted : List.zipWith (· * ·) (points.map Prod.fst) (points.map fun p => p.2 - line.predict p.1) =
      points.map fun p => p.1 * (p.2 - line.predict p.1) := by
    rw [List.zipWith_map, List.zipWith_self]
  rw [misses_columns, weighted, centredProducts, zipWith_columns, centredSquares, List.map_map]
  generalize average (points.map Prod.fst) = mx at dx ⊢
  generalize average (points.map Prod.snd) = my
  have parts : ∀ p : ℚ × ℚ, p.1 * (p.2 - line.predict p.1) =
      (p.1 - mx) * (p.2 - my) + (-line.slope * (p.1 - mx) ^ 2 +
        ((my - line.predict mx) * (p.1 - mx) + mx * (p.2 - line.predict p.1))) := by
    intro p
    simp only [Line.predict]
    ring
  simp only [parts, List.sum_map_add, List.sum_map_mul_left, dx, Function.comp_def]
  ring

/-- What the least-squares line of two columns is known by. -/
structure Line.IsNormal (line : Line ℚ) (x y : List ℚ) : Prop where
  sum_zero : (line.misses x y).sum = 0
  orthogonal : (List.zipWith (· * ·) x (line.misses x y)).sum = 0

/-- Any other line misses by as much as a normal line does, and by the difference of the two lines besides. -/
theorem Line.IsNormal.sum_squares (normal : line.IsNormal x y) (same : x.length = y.length) (other : Line ℚ) :
    ((other.misses x y).map (· ^ 2)).sum =
      ((line.misses x y).map (· ^ 2)).sum + ((x.map fun u => line.predict u - other.predict u).map (· ^ 2)).sum := by
  obtain ⟨points, rfl, rfl⟩ := exists_points same
  obtain ⟨sum_zero, orthogonal⟩ := normal
  rw [misses_columns] at sum_zero orthogonal
  rw [List.zipWith_map, List.zipWith_self] at orthogonal
  rw [misses_columns, misses_columns]
  simp only [List.map_map, Function.comp_def]
  have parts : ∀ p : ℚ × ℚ, (p.2 - other.predict p.1) ^ 2 =
      (p.2 - line.predict p.1) ^ 2 + ((line.predict p.1 - other.predict p.1) ^ 2 +
        (2 * (line.slope - other.slope) * (p.1 * (p.2 - line.predict p.1)) +
          2 * (line.intercept - other.intercept) * (p.2 - line.predict p.1))) := by
    intro p
    simp only [Line.predict]
    ring
  simp only [parts, List.sum_map_add, List.sum_map_mul_left, sum_zero, orthogonal, mul_zero, add_zero]

/-- Where the predictor varies, two lines differ somewhere. -/
theorem sum_differences_pos {other : Line ℚ} (spread : centredSquares x ≠ 0) (different : other ≠ line) :
    0 < ((x.map fun u => line.predict u - other.predict u).map (· ^ 2)).sum := by
  refine lt_of_le_of_ne (sum_squares_nonneg _) fun zero => ?_
  have agree := List.forall_mem_map.mp (sum_squares_eq_zero_iff.mp zero.symm)
  simp only [Line.predict] at agree
  obtain ⟨u, first, v, second, apart⟩ : ∃ u ∈ x, ∃ v ∈ x, u ≠ v := by
    by_contra none
    push Not at none
    exact spread (centredSquares_eq_zero_iff.mpr none)
  have slopes : line.slope = other.slope := by
    have crossing : (line.slope - other.slope) * (u - v) = 0 := by linear_combination agree u first - agree v second
    rcases mul_eq_zero.mp crossing with same | same
    · exact sub_eq_zero.mp same
    · exact (apart (sub_eq_zero.mp same)).elim
  have intercepts : line.intercept = other.intercept := by
    have here := agree u first
    rw [slopes] at here
    linear_combination here
  exact different ((Line.mk.injEq ..).mpr ⟨intercepts.symm, slopes.symm⟩)

end Misses

section Training

variable {x y : List ℚ}

private theorem Spread.foldl_add (mx my : ℚ) (points : List (ℚ × ℚ)) (start : Spread ℚ) :
    points.foldl (Spread.add mx my) start =
      ⟨start.xx + (points.map fun p => (p.1 - mx) ^ 2).sum,
        start.xy + (points.map fun p => (p.1 - mx) * (p.2 - my)).sum,
        start.squares + (points.map fun p => p.1 ^ 2).sum⟩ := by
  induction points generalizing start with
  | nil => simp
  | cons p rest ih =>
    rw [List.foldl_cons, ih]
    simp only [List.map_cons, List.sum_cons, Spread.add, pow_two, add_assoc]

private theorem sum_div_eq (same : x.length = y.length) :
    (Scalar.sum y / Scalar.ofCount x.length : ℚ) = average y := by
  rw [same]
  exact Scalar.mean_rat y

/-- One pass over the points gives the centred sums. -/
theorem spreadOf_eq (same : x.length = y.length) :
    Line.spreadOf x y = ⟨centredSquares x, centredProducts x y, (x.map (· ^ 2)).sum⟩ := by
  have start : (Spread.none : Spread ℚ) = ⟨0, 0, 0⟩ := rfl
  rw [Line.spreadOf, sum_div_eq same, Scalar.mean_rat, Spread.ofColumns, Spread.foldl_add, start]
  obtain ⟨points, rfl, rfl⟩ := exists_points same
  simp only [zero_add, centredSquares, centredProducts, zipWith_columns, List.map_map, List.zip_map', Function.comp_def]

/-- The three tests of the spread are one comparison. -/
theorem isDegenerate_iff (same : x.length = y.length) :
    (Line.spreadOf x y).isDegenerate = true ↔ centredSquares x ≤ 1 / 2 ^ 52 * (x.map (· ^ 2)).sum := by
  have tests : (Line.spreadOf x y).isDegenerate = true ↔
      centredSquares x = 0 ∨ centredSquares x ≤ (Scalar.roundoff : ℚ) * (x.map (· ^ 2)).sum := by
    rw [spreadOf_eq same, Spread.isDegenerate]
    simp [Scalar.isFinite, Scalar.isZero, Scalar.atMost]
  rw [tests, Scalar.roundoff_rat]
  refine or_iff_right_of_imp fun flat => ?_
  rw [flat]
  exact mul_nonneg (by norm_num) (sum_squares_nonneg x)

private theorem comparable_of_length (same : x.length = y.length) :
    Line.Comparable x y := ⟨same, fun _ _ => rfl⟩

/-- The trained line satisfies the normal equations. -/
theorem isNormal_leastSquares (present : x ≠ []) (same : x.length = y.length) (spread : centredSquares x ≠ 0) :
    (Line.leastSquares x y).IsNormal x y := by
  have trained : Line.leastSquares x y = ⟨average y - centredProducts x y / centredSquares x * average x,
      centredProducts x y / centredSquares x⟩ := by
    rw [Line.leastSquares, sum_div_eq same, Scalar.mean_rat, spreadOf_eq same]
  have central : (Line.leastSquares x y).centralMiss x y = 0 := by
    rw [trained, Line.centralMiss, Line.predict]
    ring
  constructor
  · rw [sum_misses _ present same, central, mul_zero]
  · rw [sum_mul_misses _ present same, central, trained, div_mul_cancel₀ _ spread]
    ring

end Training

section Share

variable {x y : List ℚ} {line : Line ℚ}

private theorem squaredResiduals_eq (line : Line ℚ) (same : x.length = y.length) :
    Metrics.squaredResiduals y (x.map line.predict) = ((line.misses x y).map (· ^ 2)).sum := by
  obtain ⟨points, rfl, rfl⟩ := exists_points same
  rw [Metrics.squaredResiduals, Scalar.sum_rat, misses_columns, List.map_map, List.map_map, List.zipWith_map,
    List.zipWith_self]
  simp only [Scalar.square, pow_two, Function.comp_def]

/-- The horizontal line through the point of means misses by the deviations. -/
theorem sum_squares_horizontal (same : x.length = y.length) :
    (((⟨average y, 0⟩ : Line ℚ).misses x y).map (· ^ 2)).sum = centredSquares y := by
  obtain ⟨points, rfl, rfl⟩ := exists_points same
  rw [misses_columns, centredSquares, List.map_map, List.map_map]
  simp only [Line.predict, zero_mul, zero_add, Function.comp_def]

/-- The spread of the target is what a normal line misses by and what it explains. -/
theorem Line.IsNormal.centredSquares_eq (normal : line.IsNormal x y) (present : x ≠ []) (same : x.length = y.length) :
    centredSquares y = ((line.misses x y).map (· ^ 2)).sum + line.slope ^ 2 * centredSquares x := by
  have count : (x.length : ℚ) ≠ 0 := by exact_mod_cast (List.length_pos_iff.mpr present).ne'
  have central : line.centralMiss x y = 0 := by
    have zero := sum_misses line present same
    rw [normal.sum_zero, eq_comm, mul_eq_zero] at zero
    exact zero.resolve_left count
  have explained : ((x.map fun u => line.predict u - (⟨average y, 0⟩ : Line ℚ).predict u).map (· ^ 2)).sum =
      line.slope ^ 2 * centredSquares x := by
    have scaled : ∀ u, (line.predict u - (⟨average y, 0⟩ : Line ℚ).predict u) ^ 2 =
        line.slope ^ 2 * (u - average x) ^ 2 := by
      intro u
      have through : average y = line.slope * average x + line.intercept := sub_eq_zero.mp central
      simp only [Line.predict, through]
      ring
    rw [List.map_map, centredSquares, ← List.sum_map_mul_left]
    simp only [Function.comp_def, scaled]
  rw [← sum_squares_horizontal same, normal.sum_squares same, explained]

/-- The share of the target's variance that a normal line explains. -/
theorem Line.IsNormal.rSquared_eq (normal : line.IsNormal x y) (present : x ≠ []) (same : x.length = y.length)
    (varies : centredSquares y ≠ 0) :
    Metrics.rSquared y (x.map line.predict) = .ok (line.slope ^ 2 * centredSquares x / centredSquares y) := by
  have some : y.isEmpty = false := by
    rw [List.isEmpty_eq_false_iff, ← List.length_pos_iff, ← same]
    exact List.length_pos_iff.mpr present
  have share : 1 - ((line.misses x y).map (· ^ 2)).sum / centredSquares y =
      line.slope ^ 2 * centredSquares x / centredSquares y := by
    rw [eq_div_iff varies, sub_mul, div_mul_cancel₀ _ varies, one_mul]
    linarith [normal.centredSquares_eq present same]
  rw [Metrics.rSquared, if_neg (by simp [same]), some, squaredResiduals_eq line same, squaredDeviations_eq, ← share]
  simp [Scalar.isZero, Scalar.one, varies]

end Share

/-- What makes a line the least-squares line of two columns: the normal equations, a residual sum of squares that every
other line exceeds, and, if the target varies, a share of its variance explained that is the line's own part of it. -/
structure Line.IsLeastSquares (line : Line ℚ) (x y : List ℚ) : Prop extends line.IsNormal x y where
  least : ∀ other, other ≠ line → ((line.misses x y).map (· ^ 2)).sum < ((other.misses x y).map (· ^ 2)).sum
  share : (∃ u ∈ y, ∃ v ∈ y, u ≠ v) → ∃ share, Metrics.rSquared y (x.map line.predict) = .ok share ∧
    share = line.slope ^ 2 * centredSquares x / centredSquares y ∧ 0 ≤ share ∧ share ≤ 1

namespace Line

variable {x y : List ℚ} {line : Line ℚ}

private theorem IsNormal.isLeastSquares (normal : line.IsNormal x y) (present : x ≠ [])
    (same : x.length = y.length) (spread : centredSquares x ≠ 0) : line.IsLeastSquares x y where
  toIsNormal := normal
  least := by
    intro other different
    rw [normal.sum_squares same other]
    exact lt_add_of_pos_right _ (sum_differences_pos spread different)
  share := by
    rintro ⟨u, first, v, second, apart⟩
    have varies : centredSquares y ≠ 0 := fun flat => apart (centredSquares_eq_zero_iff.mp flat u first v second)
    have positive : 0 < centredSquares y := (centredSquares_nonneg y).lt_of_ne' varies
    refine ⟨_, normal.rSquared_eq present same varies, rfl, ?_, ?_⟩
    · exact div_nonneg (mul_nonneg (sq_nonneg _) (centredSquares_nonneg x)) positive.le
    · rw [div_le_one positive, normal.centredSquares_eq present same]
      exact le_add_of_nonneg_left (sum_squares_nonneg _)

/-- Over exact numbers, training refuses two columns of one length exactly if the predictor's centred sum of squares is
no more than `2^-52` of its sum of squares, so in any case if the predictor does not vary. Otherwise it answers, and
what it answers is the least-squares line. -/
theorem train_is_least_squares (same : x.length = y.length) (enough : 2 ≤ x.length) :
    (train x y = .error .degeneratePredictor ↔ centredSquares x ≤ 1 / 2 ^ 52 * (x.map (· ^ 2)).sum) ∧
      ((∀ u ∈ x, ∀ v ∈ x, u = v) → train x y = .error .degeneratePredictor) ∧
      (1 / 2 ^ 52 * (x.map (· ^ 2)).sum < centredSquares x → ∃ line, train x y = .ok line) ∧
      ∀ line, train x y = .ok line → line.IsLeastSquares x y := by
  have present : x ≠ [] := List.length_pos_iff.mp (by omega)
  have refused : train x y = .error .degeneratePredictor ↔
      centredSquares x ≤ 1 / 2 ^ 52 * (x.map (· ^ 2)).sum := by
    rw [train_eq_degenerate_iff (comparable_of_length same), isDegenerate_iff same]
    exact and_iff_right enough
  have answered : (¬centredSquares x ≤ 1 / 2 ^ 52 * (x.map (· ^ 2)).sum) → train x y = .ok (leastSquares x y) := by
    intro spread
    rw [train_of_comparable (comparable_of_length same), if_neg (by omega),
      if_neg (mt (isDegenerate_iff same).mp spread)]
  refine ⟨refused, fun equal => ?_, fun spread => ⟨_, answered (not_le.mpr spread)⟩, fun line trained => ?_⟩
  · rw [refused, centredSquares_eq_zero_iff.mpr equal]
    exact mul_nonneg (by norm_num) (sum_squares_nonneg x)
  · have spread : ¬centredSquares x ≤ 1 / 2 ^ 52 * (x.map (· ^ 2)).sum := by
      intro degenerate
      rw [refused.mpr degenerate] at trained
      cases trained
    have nonzero : centredSquares x ≠ 0 := by
      intro flat
      rw [flat] at spread
      exact spread (mul_nonneg (by norm_num) (sum_squares_nonneg x))
    rw [answered spread] at trained
    cases trained
    exact (isNormal_leastSquares present same nonzero).isLeastSquares present same nonzero

/-- Three points that no line runs through. -/
theorem train_three_points : train [1, 2, 4] [1, 3, 2] = .ok (⟨3 / 2, 3 / 14⟩ : Line ℚ) ∧
    (⟨3 / 2, 3 / 14⟩ : Line ℚ).IsLeastSquares [1, 2, 4] [1, 3, 2] := by
  have trained : train [1, 2, 4] [1, 3, 2] = .ok (⟨3 / 2, 3 / 14⟩ : Line ℚ) := by decide +kernel
  exact ⟨trained, (train_is_least_squares (by decide) (by decide)).2.2.2 _ trained⟩

end Line

end HoldoutLine
