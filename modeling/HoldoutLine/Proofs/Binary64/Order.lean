import HoldoutLine.Proofs.Binary64.Arithmetic

/-! # The order of doubles

Finite doubles compare as the numbers that they stand for. A double that is not below zero need not be a number: what
counts is that squares, sums of such, their means and their roots never fall below zero, whatever overflows on the
way.
-/

namespace HoldoutLine.Binary64

open Float.Model Float.Model.UnpackedFloat

section Comparison

variable {m n : ℕ} {e f : ℤ} {a b : UnpackedFloat} {x y : Float}

/-- A mantissa at a lower exponent is less than a full one. -/
theorem magnitude_lt (short : m < 2 ^ 53) (full : 2 ^ 52 ≤ n) (lower : e < f) : (m * 2 ^ e : ℝ) < n * 2 ^ f := by
  have shortCast : (m : ℝ) < 2 ^ (53 : ℤ) := by exact_mod_cast short
  have fullCast : (2 : ℝ) ^ (52 : ℤ) ≤ n := by exact_mod_cast full
  calc (m * 2 ^ e : ℝ) < 2 ^ (53 : ℤ) * 2 ^ e := mul_lt_mul_of_pos_right shortCast (by positivity)
    _ = 2 ^ (53 + e) := (zpow_add₀ two_ne_zero _ _).symm
    _ ≤ 2 ^ (52 + f) := zpow_le_zpow_right₀ one_le_two (by omega)
    _ = 2 ^ (52 : ℤ) * 2 ^ f := zpow_add₀ two_ne_zero _ _
    _ ≤ n * 2 ^ f := mul_le_mul_of_nonneg_right fullCast (by positivity)

/-- The exponents of doubles decide first how their magnitudes compare. -/
theorem compare_magnitude (shortM : m < 2 ^ 53) (shortN : n < 2 ^ 53) (leastE : -1074 ≤ e) (leastF : -1074 ≤ f)
    (fullM : e = -1074 ∨ 2 ^ 52 ≤ m) (fullN : f = -1074 ∨ 2 ^ 52 ≤ n) :
    (compare e f).then (compare m n) = cmp (m * 2 ^ e : ℝ) (n * 2 ^ f) := by
  rcases lt_trichotomy e f with lower | rfl | higher
  · have less : (m * 2 ^ e : ℝ) < n * 2 ^ f := magnitude_lt shortM (by omega) lower
    rw [Int.compare_eq_lt.mpr lower, (cmp_eq_lt_iff _ _).mpr less]
    rfl
  · rw [cmp_mul_pos_right (by positivity), Int.compare_eq_eq.mpr rfl]
    rcases lt_trichotomy m n with less | rfl | more
    · rw [Nat.compare_eq_lt.mpr less, (cmp_eq_lt_iff _ _).mpr (by exact_mod_cast less)]
      rfl
    · rw [Nat.compare_eq_eq.mpr rfl, cmp_self_eq_eq]
      rfl
    · rw [Nat.compare_eq_gt.mpr more, (cmp_eq_gt_iff _ _).mpr (by exact_mod_cast more)]
      rfl
  · have more : (n * 2 ^ f : ℝ) < m * 2 ^ e := magnitude_lt shortN (by omega) higher
    rw [Int.compare_eq_gt.mpr higher, (cmp_eq_gt_iff _ _).mpr more]
    rfl

/-- The magnitude of a double is not zero if it has a mantissa. -/
theorem magnitude_pos (m_pos : 0 < m) (e : ℤ) : 0 < (m * 2 ^ e : ℝ) := by positivity

@[simp] theorem partsValue_positive (m_pos : 0 < m) (e : ℤ) :
    partsValue (.finite .positive m e m_pos) = m * 2 ^ e := one_mul _

@[simp] theorem partsValue_negative (m_pos : 0 < m) (e : ℤ) :
    partsValue (.finite .negative m e m_pos) = -(m * 2 ^ e) := neg_one_mul _

private theorem cmp_neg_neg (u v : ℝ) : cmp (-u) (-v) = (cmp u v).swap := by
  rw [cmp_swap, ← cmp_sub_zero, ← cmp_sub_zero v u, neg_sub_neg]

/-- The parts of finite doubles compare as the numbers that they stand for. -/
theorem compare_parts (canonicalA : IsCanonical a) (finiteA : a.isFinite = true) (canonicalB : IsCanonical b)
    (finiteB : b.isFinite = true) :
    UnpackedFloat.compare a b = some (cmp (partsValue a) (partsValue b)) := by
  cases a with
  | notANumber => cases finiteA
  | infinity => cases finiteA
  | zero s =>
    rw [partsValue_zero]
    cases b with
    | notANumber => cases finiteB
    | infinity => cases finiteB
    | zero t => rw [partsValue_zero, cmp_self_eq_eq, UnpackedFloat.compare]
    | finite t n f n_pos =>
      have positive := magnitude_pos n_pos f
      cases t with
      | positive =>
        rw [partsValue_positive, (cmp_eq_lt_iff _ _).mpr positive]
        rfl
      | negative =>
        rw [partsValue_negative, (cmp_eq_gt_iff _ _).mpr (neg_lt_zero.mpr positive)]
        rfl
  | finite s m e m_pos =>
    have positiveA := magnitude_pos m_pos e
    cases b with
    | notANumber => cases finiteB
    | infinity => cases finiteB
    | zero t =>
      rw [partsValue_zero]
      cases s with
      | positive =>
        rw [partsValue_positive, (cmp_eq_gt_iff _ _).mpr positiveA]
        rfl
      | negative =>
        rw [partsValue_negative, (cmp_eq_lt_iff _ _).mpr (neg_lt_zero.mpr positiveA)]
        rfl
    | finite t n f n_pos =>
      have positiveB := magnitude_pos n_pos f
      obtain ⟨shortM, leastE, fullM⟩ := canonicalA
      obtain ⟨shortN, leastF, fullN⟩ := canonicalB
      have magnitudes := compare_magnitude shortM shortN leastE leastF fullM fullN
      cases s with
      | positive =>
        cases t with
        | positive => rw [partsValue_positive, partsValue_positive, UnpackedFloat.compare, magnitudes]
        | negative =>
          rw [partsValue_positive, partsValue_negative, UnpackedFloat.compare, (cmp_eq_gt_iff _ _).mpr (by linarith)]
      | negative =>
        cases t with
        | positive =>
          rw [partsValue_positive, partsValue_negative, UnpackedFloat.compare, (cmp_eq_lt_iff _ _).mpr (by linarith)]
        | negative =>
          rw [partsValue_negative, partsValue_negative, UnpackedFloat.compare, magnitudes, cmp_neg_neg]

private theorem compare_unpack (finiteX : x.isFinite = true) (finiteY : y.isFinite = true) :
    UnpackedFloat.compare x.toModel.unpack y.toModel.unpack = some (cmp (real x) (real y)) := by
  rw [real_eq_partsValue, real_eq_partsValue]
  exact compare_parts (isCanonical_unpack _) finiteX (isCanonical_unpack _) finiteY

/-- Finite doubles are ordered as the numbers that they stand for. -/
theorem lt_iff_real (finiteX : x.isFinite = true) (finiteY : y.isFinite = true) : x < y ↔ real x < real y := by
  rw [lt_iff_unpack, compare_unpack finiteX finiteY, Option.some_inj, cmp_eq_lt_iff]

theorem le_iff_real (finiteX : x.isFinite = true) (finiteY : y.isFinite = true) : x ≤ y ↔ real x ≤ real y := by
  rw [le_iff_unpack, compare_unpack finiteX finiteY, Option.any_some, Ordering.isLE_iff_ne_gt, cmp_eq_gt_iff, not_lt]

theorem not_lt_iff_le (finiteX : x.isFinite = true) (finiteY : y.isFinite = true) : ¬x < y ↔ y ≤ x := by
  rw [lt_iff_real finiteX finiteY, le_iff_real finiteY finiteX, not_lt]

theorem not_le_iff_lt (finiteX : x.isFinite = true) (finiteY : y.isFinite = true) : ¬x ≤ y ↔ y < x := by
  rw [le_iff_real finiteX finiteY, lt_iff_real finiteY finiteX, not_le]

theorem beq_iff_real (finiteX : x.isFinite = true) (finiteY : y.isFinite = true) :
    (x == y) = true ↔ real x = real y := by
  change (UnpackedFloat.compare x.toModel.unpack y.toModel.unpack == some .eq) = true ↔ _
  rw [beq_iff_eq, compare_unpack finiteX finiteY, Option.some_inj, cmp_eq_eq_iff]

end Comparison

section Signs

variable {a b : UnpackedFloat} {x y : Float}

/-- Whether parts are those of a number below zero, or of the negative infinity. -/
def isBelowZero : UnpackedFloat → Bool
  | .infinity sign => isNegative sign
  | .finite sign .. => isNegative sign
  | _ => false

private theorem lt_zero_iff (x : Float) : x < 0.0 ↔ isBelowZero x.toModel.unpack = true := by
  rw [lt_iff_unpack, unpack_zero]
  cases x.toModel.unpack with
  | notANumber => exact iff_of_false nofun nofun
  | infinity sign =>
    cases sign
    · exact iff_of_true rfl rfl
    · exact iff_of_false nofun nofun
  | zero sign => exact iff_of_false nofun nofun
  | finite sign =>
    cases sign
    · exact iff_of_true rfl rfl
    · exact iff_of_false nofun nofun

/-- A double that is not below zero; it need not be a number. -/
def NotBelowZero (x : Float) : Prop := isBelowZero x.toModel.unpack = false

theorem notBelowZero_iff : NotBelowZero x ↔ ¬x < 0.0 := by
  rw [lt_zero_iff, Bool.not_eq_true, NotBelowZero]

private theorem isBelowZero_packComponents {sign : Sign} (above : isNegative sign = false)
    (exponent : BitVec 11) (mantissa : BitVec 52) :
    isBelowZero (UnpackedFloat.unpack Format.binary64 (packComponents Format.binary64 sign exponent mantissa)) =
      false := by
  rw [UnpackedFloat.unpack]
  simp only [unpackMantissa_packComponents, unpackExponent_packComponents, unpackSign_packComponents,
    Sign.ofBitVec_toBitVec]
  split_ifs <;> first | exact above | rfl

/-- Packing keeps the sign. -/
theorem isBelowZero_pack (above : isBelowZero a = false) : isBelowZero (Float.Model.pack a).unpack = false := by
  rw [unpack_pack]
  cases a with
  | notANumber => exact isBelowZero_packComponents rfl _ _
  | infinity sign => exact isBelowZero_packComponents above _ _
  | zero sign => rw [UnpackedFloat.pack, unpack_packedZero]; rfl
  | finite sign mantissa exponent positive =>
    rw [UnpackedFloat.pack]
    dsimp only
    split_ifs <;> exact isBelowZero_packComponents above _ _

private theorem isBelowZero_roundWithAccuracy {sign : Sign} (above : isNegative sign = false) (mantissa : ℕ)
    (exponent : ℤ) (accuracy : Accuracy) :
    isBelowZero (roundWithAccuracy Format.binary64 sign mantissa exponent accuracy) = false := by
  rw [roundWithAccuracy_eq_ofShifted rfl, ofShifted]
  split_ifs
  · rfl
  · exact above

private theorem isBelowZero_normalize {mantissa : ℤ} (nonneg : 0 ≤ mantissa) (exponent : ℤ) (zeroSign : Sign) :
    isBelowZero (UnpackedFloat.normalize Format.binary64 mantissa exponent zeroSign) = false := by
  rw [UnpackedFloat.normalize]
  rcases nonneg.eq_or_lt with rfl | positive
  · rfl
  · rw [Int.compare_eq_gt.mpr positive]
    exact isBelowZero_roundWithAccuracy rfl _ _ _

private theorem isBelowZero_add (aboveA : isBelowZero a = false) (aboveB : isBelowZero b = false) :
    isBelowZero (UnpackedFloat.add Format.binary64 a b) = false := by
  cases a with
  | notANumber => rfl
  | infinity s =>
    cases b with
    | infinity t =>
      rw [UnpackedFloat.add]
      split_ifs
      · exact aboveA
      · rfl
    | notANumber => rfl
    | _ => exact aboveA
  | zero s =>
    cases b with
    | zero t =>
      rw [UnpackedFloat.add]
      split_ifs <;> rfl
    | _ => exact aboveB
  | finite s m e m_pos =>
    cases b with
    | notANumber => rfl
    | infinity t => exact aboveB
    | zero t => exact aboveA
    | finite t n f n_pos =>
      cases s with
      | negative => cases aboveA
      | positive =>
        cases t with
        | negative => cases aboveB
        | positive => exact isBelowZero_normalize (Int.add_nonneg (Int.natCast_nonneg _) (Int.natCast_nonneg _)) _ _

private theorem isBelowZero_mul_self (a : UnpackedFloat) :
    isBelowZero (UnpackedFloat.mul Format.binary64 a a) = false := by
  have square : ∀ sign : Sign, isNegative (sign * sign) = false := by
    intro sign
    rw [isNegative_mul, Bool.xor_self]
  cases a with
  | notANumber => rfl
  | infinity s => exact square s
  | zero s => rfl
  | finite s m e m_pos => exact isBelowZero_roundWithAccuracy (square s) _ _ _

private theorem isBelowZero_div (aboveA : isBelowZero a = false) (aboveB : isBelowZero b = false)
    (nonzero : ∀ sign, b ≠ .zero sign) : isBelowZero (UnpackedFloat.div Format.binary64 a b) = false := by
  have quotient : ∀ s t : Sign, isNegative s = false → isNegative t = false → isNegative (s / t) = false := by
    intro s t left right
    rw [isNegative_div, left, right, Bool.xor_self]
  cases b with
  | notANumber => cases a <;> rfl
  | zero t => exact (nonzero t rfl).elim
  | infinity t => cases a <;> rfl
  | finite t n f n_pos =>
    cases a with
    | notANumber => rfl
    | infinity s => exact quotient s t aboveA aboveB
    | zero s => rfl
    | finite s m e m_pos => exact isBelowZero_roundWithAccuracy (quotient s t aboveA aboveB) _ _ _

private theorem isBelowZero_sqrt (a : UnpackedFloat) :
    isBelowZero (UnpackedFloat.sqrt Format.binary64 a) = false := by
  cases a with
  | notANumber => rfl
  | infinity s => cases s <;> rfl
  | zero s => rfl
  | finite s m e m_pos =>
    cases s with
    | negative => rfl
    | positive => exact isBelowZero_roundWithAccuracy rfl _ _ _

/-- Whatever overflows, a sum of doubles that are not below zero is not below zero. -/
theorem NotBelowZero.add (aboveX : NotBelowZero x) (aboveY : NotBelowZero y) : NotBelowZero (x + y) :=
  isBelowZero_pack (isBelowZero_add aboveX aboveY)

theorem notBelowZero_mul_self (x : Float) : NotBelowZero (x * x) := isBelowZero_pack (isBelowZero_mul_self _)

theorem NotBelowZero.div (aboveX : NotBelowZero x) (aboveY : NotBelowZero y)
    (nonzero : ∀ sign, y.toModel.unpack ≠ .zero sign) : NotBelowZero (x / y) :=
  isBelowZero_pack (isBelowZero_div aboveX aboveY nonzero)

theorem notBelowZero_sqrt (x : Float) : NotBelowZero x.sqrt := isBelowZero_pack (isBelowZero_sqrt _)

theorem notBelowZero_abs (x : Float) : NotBelowZero x.abs := by
  refine isBelowZero_pack ?_
  cases x.toModel.unpack <;> rfl

/-- A finite double is not below zero exactly if its number is not. -/
theorem notBelowZero_iff_real (finite : x.isFinite = true) : NotBelowZero x ↔ 0 ≤ real x := by
  have zero : (0.0 : Float).isFinite = true := by decide +kernel
  rw [notBelowZero_iff, lt_iff_real finite zero, not_lt, real_eq_partsValue 0.0, unpack_zero, partsValue_zero]

end Signs

section Bounds

variable {x y : Float} {v : ℝ}

/-- The parts of a finite double. -/
theorem unpack_of_isFinite (finite : x.isFinite = true) :
    (∃ sign, x.toModel.unpack = .zero sign) ∨ ∃ sign m e m_pos, x.toModel.unpack = .finite sign m e m_pos := by
  change x.toModel.unpack.isFinite = true at finite
  cases parts : x.toModel.unpack with
  | notANumber => rw [parts] at finite; cases finite
  | infinity => rw [parts] at finite; cases finite
  | zero sign => exact .inl ⟨sign, rfl⟩
  | finite sign m e m_pos => exact .inr ⟨sign, m, e, m_pos, rfl⟩

theorem unpack_of_not_isFinite (infinite : ¬x.isFinite = true) :
    x.toModel.unpack = .notANumber ∨ ∃ sign, x.toModel.unpack = .infinity sign := by
  change ¬x.toModel.unpack.isFinite = true at infinite
  cases parts : x.toModel.unpack with
  | notANumber => exact .inl rfl
  | infinity sign => exact .inr ⟨sign, rfl⟩
  | zero => rw [parts] at infinite; exact (infinite rfl).elim
  | finite => rw [parts] at infinite; exact (infinite rfl).elim

/-- A zero of either sign. -/
theorem isFinite_of_unpack_zero {sign : Sign} (zero : x.toModel.unpack = .zero sign) :
    x.isFinite = true ∧ real x = 0 := by
  constructor
  · change x.toModel.unpack.isFinite = true
    rw [zero]
    rfl
  · rw [real_eq_partsValue, zero, partsValue_zero]

/-- Of a finite double that is divided by an infinity, zero is left. -/
theorem div_infinity {sign : Sign} (finite : x.isFinite = true) (infinite : y.toModel.unpack = .infinity sign) :
    ∃ sign, (x / y).toModel.unpack = .zero sign := by
  change ∃ sign, (Float.Model.pack (UnpackedFloat.div Format.binary64 x.toModel.unpack y.toModel.unpack)).unpack = _
  rw [infinite]
  rcases unpack_of_isFinite finite with ⟨_, parts⟩ | ⟨_, _, _, _, parts⟩
  · exact ⟨_, by rw [parts, UnpackedFloat.div, unpack_pack, UnpackedFloat.pack, unpack_packedZero]⟩
  · exact ⟨_, by rw [parts, UnpackedFloat.div, unpack_pack, UnpackedFloat.pack, unpack_packedZero]⟩

theorem unpack_of_infinite {negative : Bool} (parts : ofFloat x = .infinite negative) :
    ∃ sign, x.toModel.unpack = .infinity sign ∧ isNegative sign = negative := by
  rw [ofFloat_eq_ofUnpacked] at parts
  cases unpacked : x.toModel.unpack with
  | infinity sign =>
    rw [unpacked, ofUnpacked, Binary64.infinite.injEq] at parts
    exact ⟨sign, rfl, parts⟩
  | _ => rw [unpacked] at parts; cases parts

private theorem not_lt_notANumber (parts : x.toModel.unpack = .notANumber) : ¬y < x := by
  rw [lt_iff_unpack, parts]
  cases y.toModel.unpack <;> exact nofun

/-- Nothing is below the negative infinity. -/
theorem not_lt_bottom (parts : x.toModel.unpack = .infinity .negative) : ¬y < x := by
  rw [lt_iff_unpack, parts]
  cases y.toModel.unpack with
  | infinity sign => cases sign <;> exact nofun
  | _ => exact nofun

/-- What is nearest to a number up to a double does not exceed it, were it infinite. -/
theorem IsNearest.not_beyond (near : IsNearest x v) (finite : y.isFinite = true) (le : v ≤ real y) : ¬y < x := by
  by_cases finiteX : x.isFinite = true
  · rw [lt_iff_real finite finiteX, not_lt]
    exact near.real_le finiteX (onLine_real finite) le
  · have below : v < 0 := by
      by_contra nonneg
      have within := near.isFinite_of_le (onLine_real finite) (lt_of_abs_lt (abs_real_lt finite))
        (abs_le.mpr ⟨by linarith, le⟩)
      exact finiteX within.1
    obtain ⟨sign, infinite, negative⟩ := unpack_of_infinite (near.ofFloat_of_infinite finiteX)
    rw [decide_eq_true below] at negative
    exact not_lt_bottom (infinite.trans (congrArg _ (eq_negative negative)))

/-- What is subtracted from one does not lift it, unless it is below zero. -/
theorem not_one_lt_sub (above : NotBelowZero x) : ¬1.0 < 1.0 - x := by
  have difference : (1.0 - x : Float).toModel.unpack = (Float.Model.pack
      (UnpackedFloat.sub Format.binary64 (1.0 : Float).toModel.unpack x.toModel.unpack)).unpack := rfl
  rw [unpack_one] at difference
  by_cases finite : x.isFinite = true
  · refine (isNearest_sub isFinite_one finite).not_beyond isFinite_one ?_
    linarith [(notBelowZero_iff_real finite).mp above]
  · rcases unpack_of_not_isFinite finite with notANumber | ⟨sign, infinite⟩
    · refine not_lt_notANumber (difference.trans ?_)
      rw [notANumber]
      exact unpack_packedNaN
    · rw [NotBelowZero, infinite] at above
      obtain rfl := eq_positive above
      refine not_lt_bottom (difference.trans ?_)
      rw [infinite]
      exact unpack_packedInfinity .negative

end Bounds

section Counts

variable {x : Float} {count : ℕ}

/-- The double of a count is no smaller than one, or the positive infinity. -/
theorem ofNat_cases (positive : 0 < count) :
    (Float.ofNat count).isFinite = true ∧ 1 ≤ real (Float.ofNat count) ∨
      (Float.ofNat count).toModel.unpack = .infinity .positive := by
  have near := isNearest_ofNat count
  have one_le : (1 : ℝ) ≤ count := by exact_mod_cast positive
  by_cases finite : (Float.ofNat count).isFinite = true
  · exact .inl ⟨finite, near.le_real finite (by simpa using onLine_real isFinite_one) one_le⟩
  · obtain ⟨sign, infinite, negative⟩ := unpack_of_infinite (near.ofFloat_of_infinite finite)
    rw [decide_eq_false (by linarith)] at negative
    obtain rfl := eq_positive negative
    exact .inr infinite

private theorem notBelowZero_ofNat (positive : 0 < count) :
    NotBelowZero (Float.ofNat count) ∧ ∀ sign, (Float.ofNat count).toModel.unpack ≠ .zero sign := by
  rcases ofNat_cases positive with ⟨finite, one_le⟩ | infinite
  · refine ⟨(notBelowZero_iff_real finite).mpr (by linarith), fun sign zero => ?_⟩
    linarith [(isFinite_of_unpack_zero zero).2]
  · rw [NotBelowZero, infinite]
    exact ⟨rfl, nofun⟩

theorem NotBelowZero.div_ofNat (above : NotBelowZero x) (positive : 0 < count) :
    NotBelowZero (x / Float.ofNat count) := by
  obtain ⟨aboveCount, nonzero⟩ := notBelowZero_ofNat positive
  exact above.div aboveCount nonzero

/-- Dividing by a count keeps what is finite finite, were the count infinite. -/
theorem isFinite_div_ofNat (finite : x.isFinite = true) (positive : 0 < count) :
    (x / Float.ofNat count).isFinite = true := by
  rcases ofNat_cases positive with ⟨finiteCount, one_le⟩ | infinite
  · have smaller : |real x / real (Float.ofNat count)| ≤ |real x| := by
      rw [abs_div]
      exact div_le_self (abs_nonneg _) (one_le.trans (le_abs_self _))
    have near := isNearest_div finite finiteCount (by linarith)
    exact (near.isFinite_of_le (onLine_real finite).abs (abs_real_lt finite) smaller).1
  · obtain ⟨sign, zero⟩ := div_infinity finite infinite
    exact (isFinite_of_unpack_zero zero).1

end Counts

end HoldoutLine.Binary64
