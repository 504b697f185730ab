import HoldoutLine.Proofs.Binary64.Order
import HoldoutLine.Proofs.Binary64.Sums

/-! # Doubles up to the positive infinity

A double that is compared with a finite one and found to be no smaller is a number, and it is finite or the positive
infinity (`le_iff_of_isFinite`). So magnitudes, squares, sums and rounded numbers can be bounded from below by
comparisons of doubles, whatever overflows, and two bounds show that a double is finite. Shares of what is no smaller,
even of infinity, stay in the unit interval, as do their rests and roots.
-/

namespace HoldoutLine.Binary64

open Float.Model Float.Model.UnpackedFloat

section Numbers

variable {x y a b : Float} {v : ℝ}

private theorem isNaN_of_isFinite (finite : x.isFinite = true) : x.isNaN = false := by
  obtain ⟨negative, units, parts⟩ := (isFinite_iff x).mp finite
  rw [Bool.eq_false_iff, ne_eq, isNaN_iff, parts]
  exact nofun

theorem not_isFinite_of_isNaN (notANumber : x.isNaN = true) : ¬x.isFinite = true := by
  intro finite
  rw [isNaN_of_isFinite finite] at notANumber
  cases notANumber

/-- What is nearest to a number is one, or an infinity. -/
theorem IsNearest.isNaN (near : IsNearest x v) : x.isNaN = false := by
  obtain ⟨negative, parts, -⟩ := near
  rw [Bool.eq_false_iff, ne_eq, isNaN_iff, parts, ofUnits]
  split_ifs <;> simp

/-- No smaller than a finite double is what stands for such a number, and the positive infinity. -/
theorem le_iff_of_isFinite (finite : a.isFinite = true) (x : Float) :
    a ≤ x ↔ x.isFinite = true ∧ real a ≤ real x ∨ x.toModel.unpack = .infinity .positive := by
  by_cases finiteX : x.isFinite = true
  · have number : x.toModel.unpack ≠ .infinity .positive := by
      change x.toModel.unpack.isFinite = true at finiteX
      intro infinite
      rw [infinite] at finiteX
      cases finiteX
    rw [le_iff_real finite finiteX, and_iff_right finiteX, or_iff_left number]
  · rw [or_iff_right fun found => finiteX found.1, le_iff_unpack]
    rcases unpack_of_not_isFinite finiteX with notANumber | ⟨sign, infinite⟩
    · rw [notANumber]
      cases a.toModel.unpack <;> exact iff_of_false nofun nofun
    · rw [infinite]
      rcases unpack_of_isFinite finite with ⟨_, parts⟩ | ⟨_, _, _, _, parts⟩ <;> rw [parts] <;> cases sign
      · exact iff_of_false nofun nofun
      · exact iff_of_true rfl rfl
      · exact iff_of_false nofun nofun
      · exact iff_of_true rfl rfl

/-- A bound shows that a double is a number. -/
theorem isNaN_of_le (finite : a.isFinite = true) (le : a ≤ x) : x.isNaN = false := by
  rcases (le_iff_of_isFinite finite x).mp le with ⟨finiteX, -⟩ | infinite
  · exact isNaN_of_isFinite finiteX
  · change x.toModel.unpack.isNaN = false
    rw [infinite]
    rfl

/-- Two bounds show that a double is finite. -/
theorem isFinite_of_between (finiteA : a.isFinite = true) (lower : a ≤ x) (finiteB : b.isFinite = true)
    (upper : x ≤ b) : x.isFinite = true ∧ real a ≤ real x ∧ real x ≤ real b := by
  rcases (le_iff_of_isFinite finiteA x).mp lower with ⟨finite, le⟩ | infinite
  · exact ⟨finite, le, (le_iff_real finite finiteB).mp upper⟩
  · rw [le_iff_unpack, infinite] at upper
    rcases unpack_of_isFinite finiteB with ⟨_, parts⟩ | ⟨_, _, _, _, parts⟩
    · rw [parts] at upper
      cases upper
    · rw [parts] at upper
      cases upper

/-- Rounding up to infinity keeps a bound that is a double. -/
theorem IsNearest.le_of_le (near : IsNearest x v) (finite : a.isFinite = true) (le : real a ≤ v) : a ≤ x := by
  rw [le_iff_of_isFinite finite]
  by_cases finiteX : x.isFinite = true
  · exact .inl ⟨finiteX, near.le_real finiteX (onLine_real finite) le⟩
  · right
    have above : 0 ≤ v := by
      by_contra below
      have small : |v| ≤ |real a| := by
        rw [abs_of_neg (not_le.mp below), abs_of_neg (by linarith)]
        linarith
      exact finiteX (near.isFinite_of_le (onLine_real finite).abs (abs_real_lt finite) small).1
    obtain ⟨sign, infinite, positive⟩ := unpack_of_infinite (near.ofFloat_of_infinite finiteX)
    rw [decide_eq_false above.not_gt] at positive
    exact infinite.trans (congrArg _ (eq_positive positive))

/-- Rounding stays between two doubles. -/
theorem IsNearest.between (near : IsNearest x v) (finiteA : a.isFinite = true) (lower : real a ≤ v)
    (finiteB : b.isFinite = true) (upper : v ≤ real b) : x.isFinite = true ∧ real a ≤ real x ∧ real x ≤ real b := by
  have finite : x.isFinite = true := by
    rcases lt_or_ge v 0 with negative | nonneg
    · have small : |v| ≤ |real a| := by
        rw [abs_of_neg negative]
        exact (neg_le_neg lower).trans (neg_le_abs _)
      exact (near.isFinite_of_le (onLine_real finiteA).abs (abs_real_lt finiteA) small).1
    · have small : |v| ≤ |real b| := by
        rw [abs_of_nonneg nonneg]
        exact upper.trans (le_abs_self _)
      exact (near.isFinite_of_le (onLine_real finiteB).abs (abs_real_lt finiteB) small).1
  exact ⟨finite, near.le_real finite (onLine_real finiteA) lower, near.real_le finite (onLine_real finiteB) upper⟩

end Numbers

section Operations

variable {x y a b c : Float}

private theorem zero_le_iff (x : Float) :
    0.0 ≤ x ↔ x.isFinite = true ∧ 0 ≤ real x ∨ x.toModel.unpack = .infinity .positive := by
  rw [le_iff_of_isFinite isFinite_zero, real_zero]

theorem zero_le_abs (number : x.isNaN = false) : 0.0 ≤ x.abs := by
  rw [zero_le_iff]
  by_cases finite : x.isFinite = true
  · obtain ⟨finiteAbs, value⟩ := abs_spec finite
    rw [value]
    exact .inl ⟨finiteAbs, abs_nonneg _⟩
  · right
    change (Float.Model.pack (UnpackedFloat.abs x.toModel.unpack)).unpack = _
    rcases unpack_of_not_isFinite finite with notANumber | ⟨sign, infinite⟩
    · change x.toModel.unpack.isNaN = false at number
      rw [notANumber] at number
      cases number
    · rw [infinite]
      exact unpack_packedInfinity .positive

theorem zero_le_mul_self (above : 0.0 ≤ x) : 0.0 ≤ x * x := by
  rcases (zero_le_iff x).mp above with ⟨finite, -⟩ | infinite
  · refine (isNearest_mul finite finite).le_of_le isFinite_zero ?_
    rw [real_zero]
    exact mul_self_nonneg _
  · rw [zero_le_iff]
    right
    change (Float.Model.pack (UnpackedFloat.mul Format.binary64 x.toModel.unpack x.toModel.unpack)).unpack = _
    rw [infinite]
    exact unpack_packedInfinity .positive

/-- Adding what is no smaller than zero lowers nothing. -/
theorem le_add_of_zero_le (finite : a.isFinite = true) (above : 0.0 ≤ y) : a ≤ a + y := by
  rcases (zero_le_iff y).mp above with ⟨finiteY, nonneg⟩ | infinite
  · exact (isNearest_add finite finiteY).le_of_le finite (by linarith)
  · rw [le_iff_of_isFinite finite]
    right
    change (Float.Model.pack (UnpackedFloat.add Format.binary64 a.toModel.unpack y.toModel.unpack)).unpack = _
    rw [infinite]
    rcases unpack_of_isFinite finite with ⟨_, parts⟩ | ⟨_, _, _, _, parts⟩
    · rw [parts]
      exact unpack_packedInfinity .positive
    · rw [parts]
      exact unpack_packedInfinity .positive

/-- A bound less what is subtracted is a bound. -/
theorem le_sub_of_le (finiteA : a.isFinite = true) (finiteB : b.isFinite = true) (finiteC : c.isFinite = true)
    (le : c ≤ y) (room : real a + real b ≤ real c) : a ≤ y - b := by
  rcases (le_iff_of_isFinite finiteC y).mp le with ⟨finiteY, above⟩ | infinite
  · exact (isNearest_sub finiteY finiteB).le_of_le finiteA (by linarith)
  · rw [le_iff_of_isFinite finiteA]
    right
    change (Float.Model.pack (UnpackedFloat.sub Format.binary64 y.toModel.unpack b.toModel.unpack)).unpack = _
    rw [infinite]
    rcases unpack_of_isFinite finiteB with ⟨_, parts⟩ | ⟨_, _, _, _, parts⟩
    · rw [parts]
      exact unpack_packedInfinity .positive
    · rw [parts]
      exact unpack_packedInfinity .positive

theorem sqrt_of_zero {sign : Sign} (zero : x.toModel.unpack = .zero sign) : x.sqrt.toModel.unpack = .zero sign := by
  change (Float.Model.pack (UnpackedFloat.sqrt Format.binary64 x.toModel.unpack)).unpack = _
  rw [zero, UnpackedFloat.sqrt, unpack_pack, UnpackedFloat.pack, unpack_packedZero]

/-- A quotient of zero that is finite is zero. -/
theorem div_of_zero {sign : Sign} (zero : x.toModel.unpack = .zero sign) (finite : (x / y).isFinite = true) :
    real (x / y) = 0 := by
  have parts : (x / y).toModel.unpack =
      (Float.Model.pack (UnpackedFloat.div Format.binary64 x.toModel.unpack y.toModel.unpack)).unpack := rfl
  have quotient := isFinite_of_pack finite
  rw [zero] at parts quotient
  rw [real_eq_partsValue, parts]
  cases divisor : y.toModel.unpack with
  | notANumber => rw [divisor] at quotient; cases quotient
  | zero => rw [divisor] at quotient; cases quotient
  | _ => rw [UnpackedFloat.div, unpack_pack, UnpackedFloat.pack, unpack_packedZero, partsValue_zero]

end Operations

section Counts

variable {count limit : ℕ}

theorem two_eq_ofNat : (2.0 : Float) = Float.ofNat 2 := by decide +kernel

/-- Short counts are doubles. -/
theorem ofNat_spec (few : count ≤ 2 ^ 53) : (Float.ofNat count).isFinite = true ∧ real (Float.ofNat count) = count :=
  isFinite_of_count (isNearest_ofNat count) few

@[simp] theorem real_two : real 2.0 = 2 := by
  rw [two_eq_ofNat, (ofNat_spec (by norm_num)).2, Nat.cast_ofNat]

theorem isFinite_two : (2.0 : Float).isFinite = true := by
  rw [two_eq_ofNat]
  exact (ofNat_spec (by norm_num)).1

/-- A count compares with a short one as a double, were it too large for one. -/
theorem ofNat_le_ofNat_iff (few : limit < 2 ^ 53) : Float.ofNat count ≤ Float.ofNat limit ↔ count ≤ limit := by
  obtain ⟨finiteLimit, valueLimit⟩ := ofNat_spec few.le
  constructor
  · intro le
    by_contra more
    obtain ⟨finiteNext, valueNext⟩ := ofNat_spec (Nat.succ_le_of_lt few)
    have next : (limit + 1 : ℕ) ≤ (count : ℝ) := by exact_mod_cast not_le.mp more
    have above := (isNearest_ofNat count).le_of_le finiteNext (valueNext.trans_le next)
    obtain ⟨-, lower, upper⟩ := isFinite_of_between finiteNext above finiteLimit le
    rw [valueNext, Nat.cast_add_one] at lower
    rw [valueLimit] at upper
    linarith
  · intro le
    obtain ⟨finite, value⟩ := ofNat_spec (le.trans few.le)
    rw [le_iff_real finite finiteLimit, value, valueLimit]
    exact_mod_cast le

/-- More than two, less two, is one at least. -/
theorem one_le_ofNat_sub_two (more : 2 < count) : 1.0 ≤ Float.ofNat count - 2.0 := by
  obtain ⟨finiteThree, three⟩ := @ofNat_spec 3 (by norm_num)
  have enough : real (Float.ofNat 3) ≤ count := by
    rw [three]
    exact_mod_cast more
  refine le_sub_of_le isFinite_one isFinite_two finiteThree ((isNearest_ofNat count).le_of_le finiteThree enough) ?_
  rw [real_one, real_two, three]
  norm_num

end Counts

section Shares

variable {x y a : Float} {v : ℝ}

private theorem ofFloat_half : ofFloat 0.5 = .finite false (1 <<< 1073) := by decide +kernel

@[simp] theorem real_half : real 0.5 = 1 / 2 := by
  rw [real_of_finite ofFloat_half, shift_mul_unit, if_neg Bool.false_ne_true, one_mul]
  norm_num

private theorem isFinite_half : (0.5 : Float).isFinite = true := (isFinite_iff _).mpr ⟨_, _, ofFloat_half⟩

/-- A double from zero to one. -/
structure InUnitInterval (x : Float) : Prop where
  zero_le : 0.0 ≤ x
  le_one : x ≤ 1.0

private theorem inUnitInterval_iff_real (finite : x.isFinite = true) :
    InUnitInterval x ↔ 0 ≤ real x ∧ real x ≤ 1 := by
  rw [← real_zero, ← real_one, ← le_iff_real isFinite_zero finite, ← le_iff_real finite isFinite_one]
  exact ⟨fun within => ⟨within.zero_le, within.le_one⟩, fun within => ⟨within.1, within.2⟩⟩

private theorem InUnitInterval.spec (within : InUnitInterval x) :
    x.isFinite = true ∧ 0 ≤ real x ∧ real x ≤ 1 := by
  obtain ⟨finite, -⟩ := isFinite_of_between isFinite_zero within.zero_le isFinite_one within.le_one
  exact ⟨finite, (inUnitInterval_iff_real finite).mp within⟩

private theorem IsNearest.inUnitInterval (near : IsNearest x v) (nonneg : 0 ≤ v) (le_one : v ≤ 1) :
    InUnitInterval x := by
  obtain ⟨finite, lower, upper⟩ :=
    near.between isFinite_zero (real_zero.trans_le nonneg) isFinite_one (le_one.trans_eq real_one.symm)
  exact (inUnitInterval_iff_real finite).mpr ⟨real_zero.symm.trans_le lower, upper.trans_eq real_one⟩

/-- A positive double has a share between zero and one in what is no smaller. -/
theorem inUnitInterval_div (finite : a.isFinite = true) (positive : 0 < real a) (le : a ≤ x) :
    InUnitInterval (a / x) := by
  rcases (le_iff_of_isFinite finite x).mp le with ⟨finiteX, above⟩ | infinite
  · have positiveX : 0 < real x := positive.trans_le above
    exact (isNearest_div finite finiteX positiveX.ne').inUnitInterval (div_pos positive positiveX).le
      ((div_le_one positiveX).mpr above)
  · obtain ⟨sign, none⟩ := div_infinity finite infinite
    obtain ⟨finiteShare, zero⟩ := isFinite_of_unpack_zero none
    exact (inUnitInterval_iff_real finiteShare).mpr ⟨zero.ge, zero.trans_le zero_le_one⟩

theorem InUnitInterval.rest (within : InUnitInterval x) : InUnitInterval (1.0 - x) := by
  obtain ⟨finite, nonneg, le_one⟩ := within.spec
  have near := isNearest_sub isFinite_one finite
  rw [real_one] at near
  exact near.inUnitInterval (sub_nonneg.mpr le_one) (sub_le_self 1 nonneg)

theorem InUnitInterval.sqrt (within : InUnitInterval x) : InUnitInterval x.sqrt := by
  obtain ⟨finite, nonneg, le_one⟩ := within.spec
  exact (isNearest_sqrt finite nonneg).inUnitInterval (Real.sqrt_nonneg _) (Real.sqrt_le_one.mpr le_one)

/-- Half of what is between zero and one, above one half. -/
theorem InUnitInterval.upper_half (within : InUnitInterval x) : 0.5 ≤ 0.5 + 0.5 * x ∧ 0.5 + 0.5 * x ≤ 1.0 := by
  obtain ⟨finite, nonneg, le_one⟩ := within.spec
  have near := isNearest_mul isFinite_half finite
  rw [real_half] at near
  obtain ⟨finiteHalf, lower, upper⟩ := near.between isFinite_zero (by rw [real_zero]; linarith) isFinite_half
    (by rw [real_half]; linarith)
  rw [real_zero] at lower
  rw [real_half] at upper
  have nearSum := isNearest_add isFinite_half finiteHalf
  rw [real_half] at nearSum
  obtain ⟨finiteSum, half_le, sum_le⟩ := nearSum.between isFinite_half (by rw [real_half]; linarith) isFinite_one
    (by rw [real_one]; linarith)
  exact ⟨(le_iff_real isFinite_half finiteSum).mpr half_le, (le_iff_real finiteSum isFinite_one).mpr sum_le⟩

/-- Twice of what one half or more leaves of one. -/
theorem inUnitInterval_twice_rest (lower : 0.5 ≤ x) (upper : x ≤ 1.0) : InUnitInterval (2.0 * (1.0 - x)) := by
  obtain ⟨finite, half_le, le_one⟩ := isFinite_of_between isFinite_half lower isFinite_one upper
  rw [real_half] at half_le
  rw [real_one] at le_one
  have near := isNearest_sub isFinite_one finite
  rw [real_one] at near
  obtain ⟨finiteRest, nonneg, rest_le⟩ := near.between isFinite_zero (by rw [real_zero]; linarith) isFinite_half
    (by rw [real_half]; linarith)
  rw [real_zero] at nonneg
  rw [real_half] at rest_le
  have nearTwice := isNearest_mul isFinite_two finiteRest
  rw [real_two] at nearTwice
  exact nearTwice.inUnitInterval (by linarith) (by linarith)

end Shares

end HoldoutLine.Binary64
