import HoldoutLine.Proofs.Binary64.Order
import HoldoutLine.Proofs.Binary64.Sums

/-! # What rounding keeps and what it loses

A multiple of a power of two that has no more than fifty-three bits above it is a double, so such numbers are added
without rounding (`real_total_of_same`). At the other end a number of up to half of the least double is rounded to zero.
So the square of a double may be zero although the double is not, and a sum of squares is zero exactly if all of them
are (`total_squares_eq_zero_iff`).
-/

namespace HoldoutLine.Binary64

section Vanishing

variable {v : ℝ}

private theorem halfEven_eq_zero_iff {q : ℝ} (nonneg : 0 ≤ q) : halfEven q = 0 ↔ 2 * q ≤ 1 := by
  obtain ⟨whole, rest, rest_nonneg, short, rfl⟩ := exists_whole_rest nonneg
  rw [halfEven_add rest_nonneg short]
  rcases whole.eq_zero_or_pos with rfl | positive
  · rw [Nat.cast_zero, zero_add rest]
    split_ifs with below above
    · exact iff_of_true rfl below.le
    · exact iff_of_false not_false above.not_ge
    · exact iff_of_true rfl (not_lt.mp above)
  · have one_le : (1 : ℝ) ≤ whole := by exact_mod_cast positive
    refine iff_of_false (Nat.pos_iff_ne_zero.mp ?_) (by linarith)
    split_ifs <;> omega

private theorem nearest_eq_zero_iff (nonneg : 0 ≤ v) : nearest v = 0 ↔ 2 * v ≤ 1 := by
  rcases lt_or_ge v (2 ^ 53 : ℕ) with small | large
  · rw [nearest, spacing_floor_of_lt nonneg small, Nat.cast_one, div_one, mul_one, halfEven_eq_zero_iff nonneg]
  · have kept := nearest_mono (by positivity) large
    rw [nearest_of_onGrid (onGrid_pow 53)] at kept
    push_cast at large
    exact iff_of_false (by omega) (by linarith)

/-- Up to half of the least double there is nothing but zero. -/
theorem rounded_eq_zero_iff (nonneg : 0 ≤ v) : rounded v = 0 ↔ v ≤ 2 ^ (-1075 : ℤ) := by
  have half : unit = 2 * 2 ^ (-1075 : ℤ) := by
    rw [unit_eq, ← zpow_one_add₀ two_ne_zero]
    rfl
  have positive : (0 : ℝ) < 2 ^ (-1075 : ℤ) := by positivity
  rw [rounded_of_nonneg nonneg, mul_eq_zero, or_iff_left unit_pos.ne', Nat.cast_eq_zero,
    nearest_eq_zero_iff (div_nonneg nonneg unit_pos.le), half, ← mul_div_assoc,
    mul_div_mul_left _ _ two_ne_zero, div_le_one positive]

end Vanishing

section Squares

variable {x start : Float} {xs : List Float}

/-- Whether the square of a double is rounded to zero. -/
def isNegligible : Binary64 → Bool
  | .finite _ units => units * units ≤ 1 <<< 1073
  | _ => false

theorem isNegligible_iff_real :
    (ofFloat x).isNegligible = true ↔ x.isFinite = true ∧ real x * real x ≤ 2 ^ (-1075 : ℤ) := by
  rw [isFinite_iff]
  cases parts : ofFloat x with
  | notANumber => exact iff_of_false Bool.false_ne_true nofun
  | infinite => exact iff_of_false Bool.false_ne_true nofun
  | finite negative units =>
    have square : real x * real x = (units * units : ℕ) * (2 : ℝ) ^ (-2148 : ℤ) := by
      rw [← abs_mul_abs_self, abs_real_of_finite parts, unit_eq, Nat.cast_mul, mul_mul_mul_comm,
        ← zpow_add₀ two_ne_zero]
      rfl
    have limit : (2 : ℝ) ^ (-1075 : ℤ) = (1 <<< 1073 : ℕ) * 2 ^ (-2148 : ℤ) := by
      rw [cast_one_shiftLeft, ← zpow_add₀ two_ne_zero]
      rfl
    rw [isNegligible, decide_eq_true_iff, square, limit, mul_le_mul_iff_left₀ (by positivity), Nat.cast_le]
    exact (and_iff_right ⟨_, _, rfl⟩).symm

/-- The square of a finite double, as a number. -/
theorem real_mul_self (finite : (x * x).isFinite = true) :
    0 ≤ real (x * x) ∧ (real x = 0 → real (x * x) = 0) := by
  obtain ⟨factor, -⟩ := isFinite_of_mul finite
  rw [(isNearest_mul factor factor).real_eq finite]
  refine ⟨rounded_nonneg (mul_self_nonneg _), fun zero => ?_⟩
  rw [zero, mul_zero, rounded_zero]

private theorem square_eq_zero_iff :
    (x * x).isFinite = true ∧ real (x * x) = 0 ↔ (ofFloat x).isNegligible = true := by
  rw [isNegligible_iff_real]
  constructor
  · rintro ⟨finite, zero⟩
    obtain ⟨factor, -⟩ := isFinite_of_mul finite
    rw [(isNearest_mul factor factor).real_eq finite] at zero
    exact ⟨factor, (rounded_eq_zero_iff (mul_self_nonneg _)).mp zero⟩
  · rintro ⟨factor, small⟩
    have near := isNearest_mul factor factor
    have vanishes := (rounded_eq_zero_iff (mul_self_nonneg (real x))).mpr small
    have finite : (x * x).isFinite = true := by
      rw [near.isFinite_iff, vanishes, abs_zero]
      positivity
    exact ⟨finite, (near.real_eq finite).trans vanishes⟩

/-- No square exceeds a sum of squares. -/
theorem square_le_total (base : real start = 0) (finite : (total start (xs.map fun x => x * x)).isFinite = true)
    (member : x ∈ xs) : (x * x).isFinite = true ∧ real (x * x) ≤ real (total start (xs.map fun x => x * x)) := by
  have squares := List.forall_mem_map.mp (isFinite_of_total finite).2
  have nonneg : ∀ square ∈ xs.map fun x => x * x, 0 ≤ real square :=
    List.forall_mem_map.mpr fun y other => (real_mul_self (squares y other)).1
  exact ⟨squares x member, le_total finite base.ge nonneg _ (List.mem_map_of_mem member)⟩

/-- Nothing but zeros makes a sum of squares zero. -/
theorem total_squares_eq_zero_iff (base : start.isFinite = true) (zero : real start = 0) :
    (total start (xs.map fun x => x * x)).isFinite = true ∧ real (total start (xs.map fun x => x * x)) = 0 ↔
      ∀ x ∈ xs, (ofFloat x).isNegligible = true := by
  constructor
  · rintro ⟨finite, vanishes⟩ x member
    obtain ⟨finiteSquare, below⟩ := square_le_total zero finite member
    rw [vanishes] at below
    exact square_eq_zero_iff.mp ⟨finiteSquare, below.antisymm (real_mul_self finiteSquare).1⟩
  · intro negligible
    have squares : ∀ y ∈ xs.map fun x => x * x, y.isFinite = true ∧ real y = 0 :=
      List.forall_mem_map.mpr fun x member => square_eq_zero_iff.mpr (negligible x member)
    have finite : (total start (xs.map fun x => x * x)).isFinite = true := by
      refine isFinite_total_of_lt (k := 0) base zero (fun y member => ?_) (by norm_num) (by norm_num)
      obtain ⟨finiteSquare, vanishes⟩ := squares y member
      exact ⟨finiteSquare, vanishes.ge, vanishes.trans_lt (by positivity)⟩
    exact ⟨finite, real_total_eq_zero finite zero fun y member => (squares y member).2⟩

/-- Two doubles are close if their difference has a square that vanishes. -/
theorem abs_sub_lt_of_isNegligible {y : Float} (negligible : (ofFloat (x - y)).isNegligible = true) :
    |real x - real y| < 2 ^ (-537 : ℤ) := by
  obtain ⟨finite, small⟩ := isNegligible_iff_real.mp negligible
  obtain ⟨finiteX, finiteY⟩ := isFinite_of_sub finite
  by_contra apart
  have kept := (isNearest_sub finiteX finiteY).le_abs_real finite (onLine_zpow (by norm_num)) (not_lt.mp apart)
  have square : (2 : ℝ) ^ (-1074 : ℤ) ≤ real (x - y) * real (x - y) := by
    rw [← abs_mul_abs_self, show (-1074 : ℤ) = -537 + -537 from rfl, zpow_add₀ two_ne_zero]
    exact mul_self_le_mul_self (by positivity) kept
  have strict : (2 : ℝ) ^ (-1075 : ℤ) < 2 ^ (-1074 : ℤ) := zpow_lt_zpow_right₀ one_lt_two (by norm_num)
  exact (square.trans small).not_gt strict

end Squares

section Repeated

variable {x start : Float} {xs : List Float} {v : ℝ} {power : ℤ}

/-- Multiples of a power of two that fit in fifty-three bits are on the line. -/
theorem IsMultiple.onLine (multiple : IsMultiple power v) (least : -1074 ≤ power) (short : |v| ≤ 2 ^ (power + 53)) :
    OnLine v := by
  have positive : (0 : ℝ) < 2 ^ power := by positivity
  have of_nat : ∀ m : ℕ, |(m : ℝ) * 2 ^ power| ≤ 2 ^ (power + 53) → OnLine (m * 2 ^ power) := by
    intro m short
    refine onLine_mul_zpow ?_ least
    rw [abs_of_nonneg (by positivity), zpow_add₀ two_ne_zero, mul_comm, mul_le_mul_iff_right₀ positive] at short
    exact_mod_cast short
  obtain ⟨n, rfl⟩ := multiple
  obtain ⟨m, rfl | rfl⟩ := Int.eq_nat_or_neg n
  · exact of_nat m short
  · rw [Int.cast_neg, neg_mul, Int.cast_natCast] at short ⊢
    rw [abs_neg] at short
    exact (of_nat m short).neg

/-- One number is added again and again without rounding, as long as its multiples are doubles. -/
theorem real_total_of_same (done : ℕ) (base : start.isFinite = true) (here : real start = done * v)
    (same : ∀ x ∈ xs, x.isFinite = true ∧ real x = v) (exact : ∀ k ≤ done + xs.length, OnLine (k * v))
    (room : ((done + xs.length : ℕ) : ℝ) * |v| < 2 ^ (1024 : ℤ)) :
    (total start xs).isFinite = true ∧ real (total start xs) = (done + xs.length : ℕ) * v := by
  induction xs generalizing start done with
  | nil => exact ⟨base, here⟩
  | cons x xs ih =>
    obtain ⟨⟨finite, value⟩, rest⟩ := List.forall_mem_cons.mp same
    rw [List.length_cons, Nat.add_comm xs.length 1, ← Nat.add_assoc] at exact room ⊢
    have sum : real start + real x = (done + 1 : ℕ) * v := by
      rw [here, value]
      push_cast
      ring
    have near := isNearest_add base finite
    rw [sum] at near
    have line : OnLine ((done + 1 : ℕ) * v) := exact _ (Nat.le_add_right _ _)
    have finiteSum : (start + x).isFinite = true := by
      rw [near.isFinite_iff, line, abs_mul, Nat.abs_cast]
      refine lt_of_le_of_lt (mul_le_mul_of_nonneg_right ?_ (abs_nonneg v)) room
      exact_mod_cast Nat.le_add_right _ _
    exact ih (done + 1) finiteSum ((near.real_eq finiteSum).trans line) rest exact room

end Repeated

end HoldoutLine.Binary64
