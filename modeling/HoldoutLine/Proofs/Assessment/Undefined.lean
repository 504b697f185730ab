import HoldoutLine.Proofs.Binary64.Exact
import HoldoutLine.Proofs.Regression.Magnitudes

/-! # When R² is undefined

R² compares with the spread of the actual values, and is undefined where the sum of their squared deviations from the
mean is zero. In exact arithmetic that happens if they are all the same. In doubles both the mean and the squares are
rounded: the mean of three tenths is not a tenth, so there is an R² of equal values; and squares of tiny deviations
are zero, so there is none of some values that differ. `share_undefined_iff` says exactly which deviations make R²
undefined, and that values on one scale (`OnScale`), as whole numbers are, have an R² exactly if they differ.
-/

namespace HoldoutLine

open Binary64

/-- A finite double that is a whole number of `2 ^ (shift - 1074)`, and small enough for its product with a count to
be one that fits in fifty-three bits. -/
def Binary64.repeats (shift count : ℕ) : Binary64 → Bool
  | .finite _ units => units % 2 ^ shift = 0 && count * units ≤ 2 ^ (shift + 53)
  | _ => false

/-- All of a list are one number, as the two zeros are. -/
def AllSame (xs : List Float) : Prop := ∀ x ∈ xs, ∀ y ∈ xs, (x == y) = true

instance (xs : List Float) : Decidable (AllSame xs) :=
  inferInstanceAs (Decidable (∀ x ∈ xs, ∀ y ∈ xs, (x == y) = true))

/-- Whole numbers of a power of two that is neither too small for its square nor too large for its multiples. Each of
them can be added up, as many times as there are numbers, without rounding. -/
structure OnScale (shift : ℕ) (xs : List Float) : Prop where
  least : 538 ≤ shift
  most : shift ≤ 2044
  few : xs.length ≤ 2 ^ 53
  repeats : ∀ x ∈ xs, (ofFloat x).repeats shift xs.length = true

section Columns

variable {xs actual predicted : List Float} {x y : Float} {v : ℝ} {shift count : ℕ}

/-- R² is undefined exactly if no deviation from the mean has a square but zero. -/
theorem shareExplained_eq_undefined_iff :
    Assessment.shareExplained actual predicted = .undefined ↔
      ∀ a ∈ actual, (ofFloat (a - Scalar.mean actual)).isNegligible = true := by
  have zeros := @total_squares_eq_zero_iff (-0.0) (actual.map fun a => a - Scalar.mean actual) isFinite_negZero
    real_negZero
  rw [← squaredDeviations_eq_total, ← isZero_iff, List.forall_mem_map] at zeros
  rw [← zeros, Assessment.shareExplained]
  split_ifs with flat
  · exact iff_of_true rfl flat
  · refine iff_of_false (fun undefined => ?_) flat
    cases undefined

/-- Values without an R² are close to each other. -/
theorem abs_sub_lt_of_negligible (negligible : ∀ a ∈ actual, (ofFloat (a - Scalar.mean actual)).isNegligible = true)
    (memberX : x ∈ actual) (memberY : y ∈ actual) : |real x - real y| < 2 ^ (-536 : ℤ) := by
  have below := abs_sub_lt_of_isNegligible (negligible x memberX)
  have above := abs_sub_lt_of_isNegligible (negligible y memberY)
  rw [abs_sub_comm] at above
  calc |real x - real y| ≤ |real x - real (Scalar.mean actual)| + |real (Scalar.mean actual) - real y| :=
        abs_sub_le _ _ _
    _ < 2 ^ (-537 : ℤ) + 2 ^ (-537 : ℤ) := add_lt_add below above
    _ = 2 ^ (-536 : ℤ) := (double_zpow _).symm

/-- The mean of one number is the number, if it can be added without rounding. -/
theorem mean_of_same (same : ∀ x ∈ xs, x.isFinite = true ∧ real x = v) (exact : ∀ k ≤ xs.length, OnLine (k * v))
    (room : xs.length * |v| < 2 ^ (1024 : ℤ)) (present : xs ≠ []) (few : xs.length ≤ 2 ^ 53) :
    (Scalar.mean xs).isFinite = true ∧ real (Scalar.mean xs) = v := by
  have positive : 0 < xs.length := List.length_pos_iff.mpr present
  obtain ⟨finite, value⟩ := real_total_of_same 0 isFinite_negZero (by simp) same
    (by rwa [Nat.zero_add]) (by rwa [Nat.zero_add])
  have near := isNearest_mean finite present few
  rw [value, Nat.zero_add, mul_div_cancel_left₀ _ (Nat.cast_ne_zero.mpr positive.ne')] at near
  obtain ⟨x, rest, rfl⟩ := List.exists_cons_of_ne_nil present
  obtain ⟨finiteX, rfl⟩ := same x List.mem_cons_self
  have finiteMean : (Scalar.mean (x :: rest)).isFinite = true := by
    rw [near.isFinite_iff, onLine_real finiteX]
    exact abs_real_lt finiteX
  exact ⟨finiteMean, (near.real_eq finiteMean).trans (onLine_real finiteX)⟩

/-- Then no deviation is anything but zero. -/
theorem negligible_of_same (same : ∀ x ∈ xs, x.isFinite = true ∧ real x = v)
    (exact : ∀ k ≤ xs.length, OnLine (k * v)) (room : xs.length * |v| < 2 ^ (1024 : ℤ)) (few : xs.length ≤ 2 ^ 53) :
    ∀ x ∈ xs, (ofFloat (x - Scalar.mean xs)).isNegligible = true := by
  intro x member
  obtain ⟨finiteX, value⟩ := same x member
  obtain ⟨finiteMean, mean⟩ := mean_of_same same exact room (List.ne_nil_of_mem member) few
  have near := isNearest_sub finiteX finiteMean
  rw [value, mean, sub_self] at near
  have finite : (x - Scalar.mean xs).isFinite = true := by
    rw [near.isFinite_iff, rounded_zero, abs_zero]
    positivity
  rw [isNegligible_iff_real, near.real_eq finite, rounded_zero, mul_zero]
  exact ⟨finite, by positivity⟩

/-- What repeats, in real numbers. -/
theorem isMultiple_of_repeats (repeats : (ofFloat x).repeats shift count = true) :
    x.isFinite = true ∧ IsMultiple (shift - 1074) (real x) ∧ count * |real x| ≤ 2 ^ ((shift : ℤ) - 1074 + 53) := by
  cases parts : ofFloat x with
  | notANumber => rw [parts] at repeats; cases repeats
  | infinite => rw [parts] at repeats; cases repeats
  | finite negative units =>
    rw [parts, Binary64.repeats, Bool.and_eq_true, decide_eq_true_iff, decide_eq_true_iff] at repeats
    obtain ⟨whole, small⟩ := repeats
    refine ⟨(isFinite_iff x).mpr ⟨_, _, parts⟩, isMultiple_of_dvd parts (Nat.dvd_of_mod_eq_zero whole), ?_⟩
    have limit : (2 : ℝ) ^ ((shift : ℤ) - 1074 + 53) = (2 ^ (shift + 53) : ℕ) * unit := by
      rw [← Nat.one_shiftLeft, shift_mul_unit]
      congr 1
      push_cast
      ring
    rw [abs_real_of_finite parts, ← mul_assoc, limit]
    exact mul_le_mul_of_nonneg_right (by exact_mod_cast small) unit_pos.le

namespace OnScale

theorem isFinite (scale : OnScale shift xs) : ∀ x ∈ xs, x.isFinite = true :=
  fun x member => (isMultiple_of_repeats (scale.repeats x member)).1

/-- Sums of one of the values are not rounded. -/
theorem onLine (scale : OnScale shift xs) (member : x ∈ xs) (le : count ≤ xs.length) : OnLine (count * real x) := by
  obtain ⟨-, ⟨times, eq⟩, small⟩ := isMultiple_of_repeats (scale.repeats x member)
  have whole : IsMultiple (shift - 1074) (count * real x) := ⟨count * times, by rw [eq]; push_cast; ring⟩
  refine whole.onLine (by omega) (le_trans ?_ small)
  rw [abs_mul, Nat.abs_cast]
  exact mul_le_mul_of_nonneg_right (Nat.cast_le.mpr le) (abs_nonneg _)

private theorem length_mul_lt (scale : OnScale shift xs) (member : x ∈ xs) :
    xs.length * |real x| < 2 ^ (1024 : ℤ) := by
  have most := scale.most
  exact (isMultiple_of_repeats (scale.repeats x member)).2.2.trans_lt (zpow_lt_limit (by omega))

/-- Values that differ do so by a whole number of the scale. -/
theorem le_abs_sub (scale : OnScale shift xs) (memberX : x ∈ xs) (memberY : y ∈ xs) (differ : real x ≠ real y) :
    2 ^ (-536 : ℤ) ≤ |real x - real y| := by
  have least := scale.least
  have whole := (isMultiple_of_repeats (scale.repeats x memberX)).2.1.sub
    (isMultiple_of_repeats (scale.repeats y memberY)).2.1
  calc (2 : ℝ) ^ (-536 : ℤ) ≤ 2 ^ ((shift : ℤ) - 1074) := zpow_le_zpow_right₀ one_le_two (by omega)
    _ ≤ |real x - real y| := whole.le_abs (sub_ne_zero.mpr differ)

private theorem allSame_iff (scale : OnScale shift xs) : AllSame xs ↔ ∀ x ∈ xs, ∀ y ∈ xs, real x = real y :=
  forall₂_congr fun x memberX => forall₂_congr fun y memberY =>
    beq_iff_real (scale.isFinite x memberX) (scale.isFinite y memberY)

/-- Values on one scale deviate from their mean exactly if they differ. -/
theorem negligible_iff (scale : OnScale shift xs) :
    (∀ x ∈ xs, (ofFloat (x - Scalar.mean xs)).isNegligible = true) ↔ AllSame xs := by
  rw [scale.allSame_iff]
  constructor
  · intro negligible x memberX y memberY
    by_contra differ
    exact (abs_sub_lt_of_negligible negligible memberX memberY).not_ge (scale.le_abs_sub memberX memberY differ)
  · intro same x member
    have alike : ∀ y ∈ xs, y.isFinite = true ∧ real y = real x :=
      fun y other => ⟨scale.isFinite y other, same y other x member⟩
    exact negligible_of_same alike (fun k => scale.onLine member) (scale.length_mul_lt member) scale.few x member

end OnScale

/-- A single value does not deviate. -/
theorem negligible_of_single (finite : x.isFinite = true) :
    ∀ a ∈ [x], (ofFloat (a - Scalar.mean [x])).isNegligible = true := by
  have only : ∀ a ∈ [x], a.isFinite = true ∧ real a = real x := by
    rintro a member
    rw [List.mem_singleton.mp member]
    exact ⟨finite, rfl⟩
  refine negligible_of_same only ?_ ?_ Nat.one_le_two_pow
  · intro k le
    rcases Nat.le_one_iff_eq_zero_or_eq_one.mp le with rfl | rfl
    · rw [Nat.cast_zero, zero_mul]
      exact rounded_zero
    · rw [Nat.cast_one, one_mul]
      exact onLine_real finite
  · rw [List.length_singleton, Nat.cast_one, one_mul]
    exact abs_real_lt finite

end Columns

namespace Assessment

variable {rows : List Observation}

/-- Finite rows have an R² unless all deviations of their targets from the mean are too small for a square. So a
single row has none, targets without one are close to each other, and on one scale they are the same. -/
theorem share_undefined_iff (line : Line Float) (present : rows ≠ []) (finite : ∀ row ∈ rows, row.isFinite = true) :
    ∃ assessment, ofObservations line rows = .ok assessment ∧
      (assessment.r2 = .undefined ↔ ∀ row ∈ rows,
        (ofFloat (row.target - Scalar.mean (rows.map Observation.target))).isNegligible = true) ∧
      (rows.length = 1 → assessment.r2 = .undefined) ∧
      (assessment.r2 = .undefined → ∀ row ∈ rows, ∀ other ∈ rows,
        |real row.target - real other.target| < 2 ^ (-536 : ℤ)) ∧
      ∀ shift, OnScale shift (rows.map Observation.target) →
        (assessment.r2 = .undefined ↔ AllSame (rows.map Observation.target)) := by
  refine ⟨measured line rows, ofObservations_of_ne_nil line present, ?_⟩
  rw [measured_r2, shareExplained_eq_undefined_iff]
  refine ⟨List.forall_mem_map, ?_, ?_, fun shift scale => scale.negligible_iff⟩
  · intro single
    obtain ⟨row, rfl⟩ := List.length_eq_one_iff.mp single
    exact negligible_of_single (Bool.and_eq_true_iff.mp (finite row List.mem_cons_self)).2
  · exact fun negligible row memberR other memberO =>
      abs_sub_lt_of_negligible negligible (List.mem_map_of_mem memberR) (List.mem_map_of_mem memberO)

def fifties : List Observation := [⟨1.0, 50.0⟩, ⟨2.0, 50.0⟩, ⟨3.0, 50.0⟩]

theorem fifties_have_no_share :
    fifties ≠ [] ∧ (∀ row ∈ fifties, row.isFinite = true) ∧ OnScale 1074 (fifties.map Observation.target) ∧
      ∃ assessment, ofObservations ⟨0.0, 1.0⟩ fifties = .ok assessment ∧ assessment.r2 = .undefined := by
  have present : fifties ≠ [] := List.cons_ne_nil _ _
  have finite : ∀ row ∈ fifties, row.isFinite = true := by decide +kernel
  have scale : OnScale 1074 (fifties.map Observation.target) := ⟨by decide, by decide, by decide, by decide +kernel⟩
  obtain ⟨assessment, made, -, -, -, onScale⟩ := share_undefined_iff ⟨0.0, 1.0⟩ present finite
  exact ⟨present, finite, scale, assessment, made, (onScale 1074 scale).mpr (by decide +kernel)⟩

def tenths : List Observation := [⟨1.0, 0.1⟩, ⟨2.0, 0.1⟩, ⟨3.0, 0.1⟩]

/-- The sum of three tenths is rounded, so all of them deviate from their mean. -/
theorem tenths_have_share :
    (∀ row ∈ tenths, row.isFinite = true) ∧ AllSame (tenths.map Observation.target) ∧
      ∃ assessment, ofObservations ⟨0.0, 1.0⟩ tenths = .ok assessment ∧ assessment.r2 ≠ .undefined := by
  refine ⟨by decide +kernel, by decide +kernel, measured ⟨0.0, 1.0⟩ tenths,
    ofObservations_of_ne_nil _ (List.cons_ne_nil _ _), ?_⟩
  rw [measured_r2, ne_eq, shareExplained_eq_undefined_iff]
  decide +kernel

/-- Two rows with targets that differ by less than any square shows. -/
def tinies : List Observation := [⟨1.0, 1e-200⟩, ⟨2.0, 2e-200⟩]

theorem tinies_have_no_share :
    (∀ row ∈ tinies, row.isFinite = true) ∧ ¬AllSame (tinies.map Observation.target) ∧
      ∃ assessment, ofObservations ⟨0.0, 1e-200⟩ tinies = .ok assessment ∧ assessment.r2 = .undefined := by
  refine ⟨by decide +kernel, by decide +kernel, measured ⟨0.0, 1e-200⟩ tinies,
    ofObservations_of_ne_nil _ (List.cons_ne_nil _ _), ?_⟩
  rw [measured_r2, shareExplained_eq_undefined_iff]
  decide +kernel

end Assessment

end HoldoutLine
