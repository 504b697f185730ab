import HoldoutLine.Regression.Metrics
import Mathlib

/-! # Sums over exact numbers

What the estimators compute over exact numbers: their sums and means are the usual ones, deviations from a mean sum to
zero, and a sum of squares is zero only if all of them are. A mean follows its numbers when they are moved or scaled,
and its square is no more than the mean of their squares.
-/

namespace HoldoutLine

/-- The mean of exact numbers. -/
def average (xs : List ℚ) : ℚ := xs.sum / xs.length

def centredSquares (xs : List ℚ) : ℚ := (xs.map fun x => (x - average xs) ^ 2).sum

section Sums

variable {xs : List ℚ}

private theorem foldl_add_eq (start : ℚ) (xs : List ℚ) : xs.foldl (· + ·) start = start + xs.sum := by
  induction xs generalizing start with
  | nil => rw [List.foldl_nil, List.sum_nil, add_zero]
  | cons x rest ih => rw [List.foldl_cons, ih, List.sum_cons, add_assoc]

theorem Scalar.sum_rat (xs : List ℚ) : Scalar.sum xs = xs.sum := (foldl_add_eq 0 xs).trans (zero_add _)

theorem Scalar.mean_rat (xs : List ℚ) : Scalar.mean xs = average xs := by
  rw [Scalar.mean, Scalar.sum_rat]
  rfl

theorem Scalar.roundoff_rat : (Scalar.roundoff : ℚ) = 1 / 2 ^ 52 := by
  change mkRat 1 (1 <<< 52) = _
  rw [Rat.mkRat_eq_div, Nat.one_shiftLeft]
  norm_num

/-- Deviations from the mean sum to zero. -/
theorem sum_deviations (present : xs ≠ []) : (xs.map fun x => x - average xs).sum = 0 := by
  have count : (xs.length : ℚ) ≠ 0 := by exact_mod_cast (List.length_pos_iff.mpr present).ne'
  have split : (xs.map fun x => x - average xs).sum = xs.sum - xs.length * average xs := by
    simp [sub_eq_add_neg, List.sum_map_add]
  rw [split, average, mul_div_cancel₀ _ count, sub_self]

end Sums

section Squares

variable {xs : List ℚ}

theorem sum_squares_nonneg (xs : List ℚ) : 0 ≤ (xs.map (· ^ 2)).sum :=
  List.sum_nonneg (List.forall_mem_map.mpr fun x _ => sq_nonneg x)

theorem sum_squares_eq_zero_iff : (xs.map (· ^ 2)).sum = 0 ↔ ∀ x ∈ xs, x = 0 := by
  induction xs with
  | nil => simp
  | cons x rest ih =>
    rw [List.map_cons, List.sum_cons, add_eq_zero_iff_of_nonneg (sq_nonneg x) (sum_squares_nonneg rest), ih,
      sq_eq_zero_iff, List.forall_mem_cons]

theorem centredSquares_eq (xs : List ℚ) : centredSquares xs = ((xs.map fun x => x - average xs).map (· ^ 2)).sum := by
  rw [List.map_map]
  rfl

theorem centredSquares_nonneg (xs : List ℚ) : 0 ≤ centredSquares xs := by
  rw [centredSquares_eq]
  exact sum_squares_nonneg _

private theorem average_of_same {v : ℚ} (present : xs ≠ []) (same : ∀ x ∈ xs, x = v) : average xs = v := by
  have count : (xs.length : ℚ) ≠ 0 := by exact_mod_cast (List.length_pos_iff.mpr present).ne'
  rw [average, List.eq_replicate_of_mem same, List.sum_replicate, List.length_replicate, nsmul_eq_mul,
    mul_div_cancel_left₀ _ count]

/-- Only numbers that are all the same have no spread. -/
theorem centredSquares_eq_zero_iff : centredSquares xs = 0 ↔ ∀ u ∈ xs, ∀ v ∈ xs, u = v := by
  rw [centredSquares_eq, sum_squares_eq_zero_iff, List.forall_mem_map]
  constructor
  · intro zeros u first v second
    rw [sub_eq_zero.mp (zeros u first), sub_eq_zero.mp (zeros v second)]
  · intro same u member
    rw [average_of_same (List.ne_nil_of_mem member) fun v other => same v other u member, sub_self]

theorem squaredDeviations_eq (y : List ℚ) : Metrics.squaredDeviations y = centredSquares y := by
  rw [Metrics.squaredDeviations, Scalar.sum_rat, Scalar.mean_rat, centredSquares]
  simp only [Scalar.square, pow_two]

end Squares

section Means

variable {xs : List ℚ}

/-- A mean moves with its numbers. -/
theorem average_map_add (present : xs ≠ []) (c : ℚ) : average (xs.map (· + c)) = average xs + c := by
  have count : (xs.length : ℚ) ≠ 0 := by exact_mod_cast (List.length_pos_iff.mpr present).ne'
  have moved : (xs.map (· + c)).sum = xs.sum + xs.length * c := by simp [List.sum_map_add]
  rw [average, average, moved, List.length_map, add_div, mul_div_cancel_left₀ _ count]

private theorem average_map_mul (xs : List ℚ) (c : ℚ) : average (xs.map (c * ·)) = c * average xs := by
  have scaled : (xs.map (c * ·)).sum = c * xs.sum := by simpa using List.sum_map_mul_left xs id c
  rw [average, average, scaled, List.length_map, mul_div_assoc]

theorem average_nonneg (nonneg : ∀ x ∈ xs, 0 ≤ x) : 0 ≤ average xs :=
  div_nonneg (List.sum_nonneg nonneg) (Nat.cast_nonneg _)

/-- Numbers that are not negative have the mean zero only if all of them are zero. -/
theorem average_eq_zero_iff (nonneg : ∀ x ∈ xs, 0 ≤ x) (present : xs ≠ []) : average xs = 0 ↔ ∀ x ∈ xs, x = 0 := by
  have count : (xs.length : ℚ) ≠ 0 := by exact_mod_cast (List.length_pos_iff.mpr present).ne'
  rw [average, div_eq_zero_iff, or_iff_left count]
  constructor
  · intro zero x member
    exact ((List.single_le_sum nonneg x member).trans_eq zero).antisymm (nonneg x member)
  · exact fun zeros => List.sum_eq_zero zeros

theorem centredSquares_map_add (xs : List ℚ) (c : ℚ) : centredSquares (xs.map (· + c)) = centredSquares xs := by
  rcases eq_or_ne xs [] with rfl | present
  · rfl
  · rw [centredSquares, centredSquares, average_map_add present, List.map_map]
    simp only [Function.comp_def, add_sub_add_right_eq_sub]

theorem centredSquares_map_mul (xs : List ℚ) (c : ℚ) :
    centredSquares (xs.map (c * ·)) = c ^ 2 * centredSquares xs := by
  rw [centredSquares, centredSquares, average_map_mul, List.map_map, ← List.sum_map_mul_left]
  simp only [Function.comp_def, ← mul_sub, mul_pow]

/-- What the squares exceed their number times the square of the mean by. -/
theorem centredSquares_eq_sub (present : xs ≠ []) :
    centredSquares xs = (xs.map (· ^ 2)).sum - xs.length * average xs ^ 2 := by
  have deviations := sum_deviations present
  rw [centredSquares]
  generalize average xs = m at deviations ⊢
  have parts : ∀ x : ℚ, (x - m) ^ 2 = x ^ 2 + (-2 * m * (x - m) + -m ^ 2) := by
    intro x
    ring
  simp only [parts, List.sum_map_add, List.sum_map_mul_left, deviations, List.map_const', List.sum_replicate,
    nsmul_eq_mul]
  ring

/-- The square of a mean is no more than the mean of the squares. -/
theorem sq_average_le (present : xs ≠ []) : average xs ^ 2 ≤ average (xs.map (· ^ 2)) := by
  have count : (0 : ℚ) < xs.length := by exact_mod_cast List.length_pos_iff.mpr present
  have spread := centredSquares_nonneg xs
  rw [centredSquares_eq_sub present, sub_nonneg] at spread
  have mean : average (xs.map (· ^ 2)) = (xs.map (· ^ 2)).sum / xs.length := by rw [average, List.length_map]
  rwa [mean, le_div_iff₀ count, mul_comm]

end Means

section Columns

variable {x y : List ℚ}

/-- Columns of one length are the columns of points. -/
theorem exists_points (same : x.length = y.length) :
    ∃ points : List (ℚ × ℚ), points.map Prod.fst = x ∧ points.map Prod.snd = y :=
  ⟨x.zip y, List.map_fst_zip same.le, List.map_snd_zip same.ge⟩

theorem zipWith_columns {α : Type} (combine : ℚ → ℚ → α) (points : List (ℚ × ℚ)) :
    List.zipWith combine (points.map Prod.fst) (points.map Prod.snd) = points.map fun p => combine p.1 p.2 := by
  rw [List.zipWith_map, List.zipWith_self]

end Columns

end HoldoutLine
