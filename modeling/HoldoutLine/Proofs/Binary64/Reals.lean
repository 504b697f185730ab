import HoldoutLine.Proofs.Binary64.Rounding

/-! # Doubles as rounded real numbers

`real` is the real number that a finite double stands for, and `rounded` the real number to which another one is
rounded, if there is room for it. A double that `IsNearest` to a real number is finite exactly if the rounded number
is within the range, and stands for it then. So a bound on a real number bounds the double that comes out for it, as
far as the bound is the value of a double itself.
-/

namespace HoldoutLine.Binary64

/-- The least positive double. -/
noncomputable def unit : ℝ := (unitsPerOne : ℝ)⁻¹

theorem cast_one_shiftLeft (power : ℕ) : ((1 <<< power : ℕ) : ℝ) = 2 ^ (power : ℤ) := by
  rw [Nat.one_shiftLeft, Nat.cast_pow, Nat.cast_ofNat, zpow_natCast]

theorem unit_eq : unit = 2 ^ (-1074 : ℤ) := by
  rw [unit, unitsPerOne, cast_one_shiftLeft, ← zpow_neg]
  rfl

theorem unit_pos : 0 < unit := by
  rw [unit_eq]
  positivity

/-- The number that a double stands for; zero where it stands for none. -/
noncomputable def toReal : Binary64 → ℝ
  | .finite negative units => (if negative then -1 else 1) * (units * unit)
  | _ => 0

/-- The number that a machine double stands for. -/
noncomputable def real (x : Float) : ℝ := toReal (ofFloat x)

/-- The number on the grid of doubles that is nearest to a real number, without a limit. -/
noncomputable def rounded (v : ℝ) : ℝ := SignType.sign v * (nearest (|v| / unit) * unit)

section Rounded

variable {u v : ℝ} {units : ℕ}

theorem rounded_of_nonneg (nonneg : 0 ≤ v) : rounded v = nearest (v / unit) * unit := by
  rcases nonneg.eq_or_lt with rfl | positive
  · simp [rounded]
  · rw [rounded, sign_pos positive, abs_of_pos positive, SignType.coe_one, one_mul]

theorem rounded_neg (v : ℝ) : rounded (-v) = -rounded v := by
  rw [rounded, rounded, Left.sign_neg, abs_neg, SignType.coe_neg, neg_mul]

@[simp] theorem rounded_zero : rounded 0 = 0 := by simp [rounded]

theorem rounded_nonneg (nonneg : 0 ≤ v) : 0 ≤ rounded v := by
  rw [rounded_of_nonneg nonneg]
  exact mul_nonneg (Nat.cast_nonneg _) unit_pos.le

/-- Rounding does not change the order of numbers. -/
theorem rounded_mono : Monotone rounded := by
  have upper : ∀ u v : ℝ, 0 ≤ u → u ≤ v → rounded u ≤ rounded v := by
    intro u v nonneg le
    rw [rounded_of_nonneg nonneg, rounded_of_nonneg (nonneg.trans le)]
    refine mul_le_mul_of_nonneg_right ?_ unit_pos.le
    have scaled : u / unit ≤ v / unit := div_le_div_of_nonneg_right le unit_pos.le
    exact_mod_cast nearest_mono (div_nonneg nonneg unit_pos.le) scaled
  intro u v le
  rcases le_total 0 u with nonneg | negative
  · exact upper u v nonneg le
  · rcases le_total 0 v with above | below
    · have negated := rounded_nonneg (neg_nonneg.mpr negative)
      rw [rounded_neg] at negated
      linarith [rounded_nonneg above]
    · have negated := upper (-v) (-u) (neg_nonneg.mpr below) (neg_le_neg le)
      rw [rounded_neg, rounded_neg] at negated
      linarith

/-- A number is on the grid of doubles, were it not for the limit. -/
def OnLine (v : ℝ) : Prop := rounded v = v

theorem OnLine.neg (line : OnLine v) : OnLine (-v) := by rw [OnLine, rounded_neg, line]

theorem OnLine.abs (line : OnLine v) : OnLine |v| := by
  rcases abs_choice v with same | flipped
  · rwa [same]
  · rw [flipped]
    exact line.neg

theorem rounded_le (line : OnLine v) (le : u ≤ v) : rounded u ≤ v := line ▸ rounded_mono le

theorem le_rounded (line : OnLine u) (le : u ≤ v) : u ≤ rounded v := line ▸ rounded_mono le

private theorem abs_rounded_le (line : OnLine v) (le : |u| ≤ v) : |rounded u| ≤ v := by
  obtain ⟨lower, upper⟩ := abs_le.mp le
  exact abs_le.mpr ⟨le_rounded line.neg lower, rounded_le line upper⟩

private theorem onLine_of_onGrid (grid : OnGrid units) : OnLine (units * unit) := by
  have nonneg : 0 ≤ units * unit := mul_nonneg (Nat.cast_nonneg _) unit_pos.le
  rw [OnLine, rounded_of_nonneg nonneg, mul_div_cancel_right₀ _ unit_pos.ne', nearest_of_onGrid grid]

/-- Fifty-three bits are on the line, wherever they stand. -/
theorem onLine_mul_zpow {mantissa : ℕ} (short : mantissa ≤ 2 ^ 53) {exponent : ℤ} (least : -1074 ≤ exponent) :
    OnLine (mantissa * 2 ^ exponent) := by
  have split : (mantissa * 2 ^ exponent : ℝ) = (mantissa * 2 ^ (exponent + 1074).toNat : ℕ) * unit := by
    push_cast
    rw [pow_toNat (by omega), unit_eq, mul_assoc, ← zpow_add₀ two_ne_zero]
    congr 2
    ring
  rw [split]
  exact onLine_of_onGrid (onGrid_mul_pow short _)

theorem onLine_zpow {exponent : ℤ} (least : -1074 ≤ exponent) : OnLine (2 ^ exponent) := by
  simpa using onLine_mul_zpow (show 1 ≤ 2 ^ 53 by norm_num) least

theorem onLine_natCast {n : ℕ} (few : n ≤ 2 ^ 53) : OnLine n := by
  simpa using onLine_mul_zpow few (show -1074 ≤ (0 : ℤ) by norm_num)

end Rounded

section Values

variable {x : Float} {negative : Bool} {units : ℕ}

theorem real_of_finite (finite : ofFloat x = .finite negative units) :
    real x = (if negative then -1 else 1) * (units * unit) := by
  rw [real, finite, toReal]

theorem abs_real_of_finite (finite : ofFloat x = .finite negative units) : |real x| = units * unit := by
  rw [real_of_finite finite, abs_mul, abs_of_nonneg (mul_nonneg (Nat.cast_nonneg units) unit_pos.le)]
  cases negative <;> simp

/-- What a finite double stands for is on the line. -/
theorem onLine_real (finite : x.isFinite = true) : OnLine (real x) := by
  obtain ⟨negative, units, parts⟩ := (isFinite_iff x).mp finite
  have line := onLine_of_onGrid (units_of_finite parts).1
  rw [real_of_finite parts]
  cases negative
  · simpa using line
  · simpa using line.neg

end Values

/-- A double is the one nearest to a real number; it is infinite if that is out of range. A zero may have either
sign. -/
def IsNearest (x : Float) (v : ℝ) : Prop :=
  ∃ negative, ofFloat x = ofUnits negative (nearest (|v| / unit)) ∧ (v < 0 → negative = true) ∧
    (0 < v → negative = false)

/-- What a power of two units makes. -/
theorem shift_mul_unit (power : ℕ) : ((1 <<< power : ℕ) : ℝ) * unit = 2 ^ ((power : ℤ) - 1074) := by
  rw [cast_one_shiftLeft, unit_eq, ← zpow_add₀ two_ne_zero]
  rfl

/-- The least magnitude that no finite double reaches. -/
theorem overflowUnits_mul_unit : overflowUnits * unit = 2 ^ (1024 : ℤ) := shift_mul_unit 2098

theorem unitsPerOne_mul_unit : unitsPerOne * unit = 1 := (shift_mul_unit 1074).trans (zpow_zero 2)

private theorem abs_rounded (v : ℝ) : |rounded v| = nearest (|v| / unit) * unit := by
  have of_nonneg : ∀ w : ℝ, 0 ≤ w → |rounded w| = nearest (|w| / unit) * unit := by
    intro w nonneg
    rw [abs_of_nonneg (rounded_nonneg nonneg), rounded_of_nonneg nonneg, abs_of_nonneg nonneg]
  rcases le_total 0 v with nonneg | negative
  · exact of_nonneg v nonneg
  · have flipped := of_nonneg (-v) (neg_nonneg.mpr negative)
    rwa [rounded_neg, abs_neg, abs_neg] at flipped

namespace IsNearest

variable {x : Float} {u v : ℝ}

theorem isFinite_iff (near : IsNearest x v) : x.isFinite = true ↔ |rounded v| < 2 ^ (1024 : ℤ) := by
  obtain ⟨negative, parts, -⟩ := near
  rw [abs_rounded, ← overflowUnits_mul_unit, mul_lt_mul_iff_left₀ unit_pos, Nat.cast_lt, Binary64.isFinite_iff, parts,
    ofUnits]
  split_ifs with room
  · exact iff_of_true ⟨_, _, rfl⟩ room
  · refine iff_of_false ?_ room
    rintro ⟨_, _, infinite⟩
    cases infinite

/-- A finite double that is nearest to a number stands for the rounded number. -/
theorem real_eq (near : IsNearest x v) (finite : x.isFinite = true) : real x = rounded v := by
  have room := near.isFinite_iff.mp finite
  obtain ⟨negative, parts, below, above⟩ := near
  rw [abs_rounded, ← overflowUnits_mul_unit, mul_lt_mul_iff_left₀ unit_pos, Nat.cast_lt] at room
  rw [ofUnits, if_pos room] at parts
  rw [real_of_finite parts]
  rcases lt_trichotomy v 0 with negative | rfl | positive
  · rw [below negative, rounded, sign_neg negative, SignType.coe_neg_one, if_pos rfl]
  · simp
  · rw [above positive, rounded, sign_pos positive, SignType.coe_one, if_neg Bool.false_ne_true]

/-- Beyond the range only the sign is left. -/
theorem ofFloat_of_infinite (near : IsNearest x v) (infinite : x.isFinite ≠ true) :
    ofFloat x = .infinite (decide (v < 0)) := by
  have full := mt near.isFinite_iff.mpr infinite
  obtain ⟨negative, parts, below, above⟩ := near
  rw [abs_rounded, ← overflowUnits_mul_unit, mul_lt_mul_iff_left₀ unit_pos, Nat.cast_lt] at full
  rw [parts, ofUnits, if_neg full]
  congr 1
  rcases lt_trichotomy v 0 with negative | rfl | positive
  · rw [below negative, decide_eq_true negative]
  · rw [abs_zero, zero_div, nearest_zero] at full
    exact (full (by decide)).elim
  · rw [above positive, decide_eq_false positive.not_gt]

/-- A number within a bound has a finite double within it, if the bound is the value of a double. -/
theorem isFinite_of_le (near : IsNearest x v) (line : OnLine u) (room : u < 2 ^ (1024 : ℤ)) (le : |v| ≤ u) :
    x.isFinite = true ∧ |real x| ≤ u := by
  have within := abs_rounded_le line le
  have finite := near.isFinite_iff.mpr (within.trans_lt room)
  exact ⟨finite, near.real_eq finite ▸ within⟩

theorem le_real (near : IsNearest x v) (finite : x.isFinite = true) (line : OnLine u) (le : u ≤ v) : u ≤ real x := by
  rw [near.real_eq finite]
  exact le_rounded line le

theorem real_le (near : IsNearest x v) (finite : x.isFinite = true) (line : OnLine u) (le : v ≤ u) : real x ≤ u := by
  rw [near.real_eq finite]
  exact rounded_le line le

theorem le_abs_real (near : IsNearest x v) (finite : x.isFinite = true) (line : OnLine u) (le : u ≤ |v|) :
    u ≤ |real x| := by
  rw [near.real_eq finite, abs_rounded, ← rounded_of_nonneg (abs_nonneg v)]
  exact le_rounded line le

end IsNearest

/-- The value of a finite double is within the range. -/
theorem abs_real_lt {x : Float} (finite : x.isFinite = true) : |real x| < 2 ^ (1024 : ℤ) := by
  obtain ⟨negative, units, parts⟩ := (isFinite_iff x).mp finite
  rw [abs_real_of_finite parts, ← overflowUnits_mul_unit, mul_lt_mul_iff_left₀ unit_pos, Nat.cast_lt]
  exact (units_of_finite parts).2

end HoldoutLine.Binary64
