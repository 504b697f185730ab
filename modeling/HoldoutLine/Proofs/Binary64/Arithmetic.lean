import HoldoutLine.Proofs.Binary64.Reals

/-! # The arithmetic of doubles

The sum, the difference, the product and the quotient of finite doubles are the doubles nearest to those of the real
numbers that they stand for, and so are the square root of one that is not negative and the double of a count. An
operation whose result is finite had finite operands, but for a divisor. So finite results can be traced back, and
bounds on real numbers carried forward.
-/

namespace HoldoutLine.Binary64

open Float.Model Float.Model.UnpackedFloat

section Signs

/-- The factor that a sign stands for. -/
def factor (sign : Sign) : ℝ := if isNegative sign then -1 else 1

theorem eq_negative {sign : Sign} (negative : isNegative sign = true) : sign = .negative := by
  cases sign with
  | negative => rfl
  | positive => cases negative

theorem eq_positive {sign : Sign} (positive : isNegative sign = false) : sign = .positive := by
  cases sign with
  | negative => cases positive
  | positive => rfl

theorem isNegative_mul (sign other : Sign) : isNegative (sign * other) = (isNegative sign ^^ isNegative other) := by
  cases sign <;> cases other <;> rfl

theorem isNegative_div (sign other : Sign) : isNegative (sign / other) = (isNegative sign ^^ isNegative other) := by
  cases sign <;> cases other <;> rfl

private theorem factor_mul (sign other : Sign) : factor (sign * other) = factor sign * factor other := by
  rw [factor, factor, factor, isNegative_mul]
  cases isNegative sign <;> cases isNegative other <;> norm_num

private theorem factor_div (sign other : Sign) : factor (sign / other) = factor sign / factor other := by
  rw [factor, factor, factor, isNegative_div]
  cases isNegative sign <;> cases isNegative other <;> norm_num

private theorem factor_neg (sign : Sign) : factor (-sign) = -factor sign := by
  cases sign
  · exact (neg_neg 1).symm
  · rfl

private theorem abs_factor (sign : Sign) : |factor sign| = 1 := by
  rw [factor]
  cases isNegative sign <;> simp

private theorem cast_apply (sign : Sign) (n : ℤ) : (sign.apply n : ℝ) = factor sign * n := by
  cases sign <;> simp [Sign.apply, factor, isNegative]

end Signs

section Parts

variable {sign : Sign} {mantissa : ℕ} {exponent : ℤ} {accuracy : Accuracy} {rest u v : ℝ} {parts : UnpackedFloat}

/-- The number that parts stand for; zero where they stand for none. -/
noncomputable def partsValue : UnpackedFloat → ℝ
  | .finite sign mantissa exponent _ => factor sign * (mantissa * ((2 : ℕ) : ℝ) ^ exponent)
  | _ => 0

@[simp] theorem partsValue_zero (sign : Sign) : partsValue (.zero sign) = 0 := rfl

private theorem partsValue_finite (positive : 0 < mantissa) :
    partsValue (.finite sign mantissa exponent positive) = factor sign * (mantissa * 2 ^ exponent) := by
  rw [partsValue, Nat.cast_ofNat]

/-- A number counted in units. -/
theorem div_unit (v : ℝ) (exponent : ℤ) : v * 2 ^ exponent / unit = v * 2 ^ (exponent + 1074) := by
  rw [unit_eq, mul_div_assoc, ← zpow_sub₀ two_ne_zero]
  congr 2

theorem real_eq_partsValue (x : Float) : real x = partsValue x.toModel.unpack := by
  rw [real, ofFloat_eq_ofUnpacked]
  cases parts : x.toModel.unpack with
  | notANumber => rfl
  | infinity => rfl
  | zero => simp [ofUnpacked, toReal, partsValue]
  | finite sign mantissa exponent positive =>
    obtain ⟨-, least, -⟩ := unpack_finite_shape parts
    have scaled := div_unit mantissa exponent
    rw [div_eq_iff unit_pos.ne'] at scaled
    rw [ofUnpacked, toReal, partsValue_finite, scaled, Nat.cast_mul, Nat.cast_pow, Nat.cast_ofNat, pow_toNat (by omega)]
    rfl

/-- Parts, not yet packed, that are nearest to a real number. -/
def IsNearestParts (parts : UnpackedFloat) (v : ℝ) : Prop :=
  IsCanonical parts ∧ ∃ negative, ofUnpacked parts = .finite negative (nearest (|v| / unit)) ∧
    (v < 0 → negative = true) ∧ (0 < v → negative = false)

/-- Packing turns what is too large into an infinity, and changes nothing else. -/
theorem IsNearestParts.pack (near : IsNearestParts parts v) : IsNearest (.ofModel (Float.Model.pack parts)) v := by
  obtain ⟨canonical, negative, found, signs⟩ := near
  refine ⟨negative, ?_, signs⟩
  rw [ofFloat_pack canonical, found, limited]

private theorem isNearestParts_zero (sign : Sign) : IsNearestParts (.zero sign) 0 := by
  refine ⟨trivial, isNegative sign, ?_, fun below => (lt_irrefl _ below).elim, fun above => (lt_irrefl _ above).elim⟩
  rw [abs_zero, zero_div, nearest_zero, ofUnpacked]

/-- A factor decides the sign of what it multiplies. -/
theorem isNegative_of_neg (nonneg : 0 ≤ v) (below : factor sign * v < 0) : isNegative sign = true := by
  rw [factor] at below
  cases negative : isNegative sign with
  | true => rfl
  | false =>
    rw [negative] at below
    norm_num at below
    linarith

private theorem isNegative_of_pos (nonneg : 0 ≤ v) (above : 0 < factor sign * v) : isNegative sign = false := by
  rw [factor] at above
  cases negative : isNegative sign with
  | false => rfl
  | true =>
    rw [negative] at above
    norm_num at above
    linarith

private theorem abs_factor_mul (nonneg : 0 ≤ v) : |factor sign * v| = v := by
  rw [abs_mul, abs_factor, one_mul, abs_of_nonneg nonneg]

/-- Parts are nearest to the number that they stand for. -/
theorem isNearestParts_self (canonical : IsCanonical parts) (finite : parts.isFinite = true) :
    IsNearestParts parts (partsValue parts) := by
  cases parts with
  | notANumber => cases finite
  | infinity => cases finite
  | zero sign => exact isNearestParts_zero sign
  | finite sign mantissa exponent positive =>
    obtain ⟨short, least, full⟩ := canonical
    have nonneg : 0 ≤ (mantissa * 2 ^ exponent : ℝ) := by positivity
    have grid := nearest_of_onGrid (onGrid_mul_pow short.le (exponent + 1074).toNat)
    rw [Nat.cast_mul, Nat.cast_pow, Nat.cast_ofNat, pow_toNat (by omega)] at grid
    refine ⟨⟨short, least, full⟩, isNegative sign, ?_, isNegative_of_neg nonneg, isNegative_of_pos nonneg⟩
    rw [partsValue_finite, abs_factor_mul nonneg, div_unit, grid, ofUnpacked]

private theorem isNearestParts_roundWithAccuracy (sign : Sign) (tells : Tells accuracy rest)
    (deep : exponent ≤ placedExponent mantissa exponent) :
    IsNearestParts (roundWithAccuracy Format.binary64 sign mantissa exponent accuracy)
      (factor sign * ((mantissa + rest) * 2 ^ exponent)) := by
  obtain ⟨rest_nonneg, -⟩ := tells.bounds
  obtain ⟨found, canonical⟩ := ofUnpacked_roundWithAccuracy sign tells deep
  have nonneg : 0 ≤ (mantissa + rest) * 2 ^ exponent := by positivity
  refine ⟨canonical, isNegative sign, ?_, isNegative_of_neg nonneg, isNegative_of_pos nonneg⟩
  rw [found, abs_factor_mul nonneg, div_unit]

/-- Without a rest the mantissa is all there is. -/
theorem isNearestParts_roundExact (sign : Sign) (deep : exponent ≤ placedExponent mantissa exponent) :
    IsNearestParts (roundWithAccuracy Format.binary64 sign mantissa exponent .exact)
      (factor sign * (mantissa * 2 ^ exponent)) := by
  have near := isNearestParts_roundWithAccuracy sign (show Tells .exact 0 from rfl) deep
  rwa [add_zero] at near

/-- An exponent is decreased without a change of the number. -/
theorem decreaseExponent_value (mantissa : ℕ) (exponent target : ℤ) :
    ((decreaseExponent mantissa exponent target).1 : ℝ) * 2 ^ (decreaseExponent mantissa exponent target).2 =
      mantissa * 2 ^ exponent := by
  rw [decreaseExponent, Nat.shiftLeft_eq, Nat.cast_mul, Nat.cast_pow, Nat.cast_ofNat, ← zpow_natCast, mul_assoc,
    ← zpow_add₀ two_ne_zero, add_sub_cancel]

private theorem decreaseExponent_of_le {target : ℤ} (le : target ≤ exponent) :
    (decreaseExponent mantissa exponent target).2 = target := by
  rw [decreaseExponent]
  omega

private theorem log2_mul_pow (nonzero : mantissa ≠ 0) (places : ℕ) :
    (mantissa * 2 ^ places).log2 = mantissa.log2 + places := by
  rw [Nat.log2_eq_iff (by positivity), Nat.add_right_comm, Nat.pow_add, Nat.pow_add]
  exact ⟨Nat.mul_le_mul_right _ (Nat.log2_self_le nonzero),
    Nat.mul_lt_mul_of_pos_right Nat.lt_log2_self (Nat.two_pow_pos places)⟩

private theorem pow_le_mul_pow {bits places : ℕ} (nonzero : mantissa ≠ 0)
    (enough : bits ≤ mantissa.log2 + places) : 2 ^ bits ≤ mantissa * 2 ^ places := by
  have shifted : mantissa * 2 ^ places ≠ 0 := mul_ne_zero nonzero (Nat.two_pow_pos places).ne'
  rwa [← Nat.le_log2 shifted, log2_mul_pow nonzero]

private theorem isNearestParts_round (sign : Sign) (nonzero : mantissa ≠ 0) (exponent : ℤ) :
    IsNearestParts (UnpackedFloat.round Format.binary64 sign mantissa exponent)
      (factor sign * (mantissa * 2 ^ exponent)) := by
  have lowered := decreaseExponent_value mantissa exponent (placedExponent mantissa exponent)
  have deep : (decreaseExponent mantissa exponent (placedExponent mantissa exponent)).2 ≤
      placedExponent (decreaseExponent mantissa exponent (placedExponent mantissa exponent)).1
        (decreaseExponent mantissa exponent (placedExponent mantissa exponent)).2 := by
    simp only [decreaseExponent, Nat.shiftLeft_eq, placedExponent, log2_mul_pow nonzero]
    omega
  rw [UnpackedFloat.round, targetExponent_eq, ← lowered]
  exact isNearestParts_roundExact sign deep

private theorem isNearestParts_normalize (mantissa exponent : ℤ) (zeroSign : Sign) :
    IsNearestParts (UnpackedFloat.normalize Format.binary64 mantissa exponent zeroSign) (mantissa * 2 ^ exponent) := by
  rw [UnpackedFloat.normalize]
  rcases lt_trichotomy mantissa 0 with below | rfl | above
  · rw [Int.compare_eq_lt.mpr below]
    have near := isNearestParts_round .negative (show (-mantissa).toNat ≠ 0 by omega) exponent
    have whole : (((-mantissa).toNat : ℤ) : ℝ) = ((-mantissa : ℤ) : ℝ) := by rw [Int.toNat_of_nonneg (by omega)]
    rw [Int.cast_natCast, Int.cast_neg] at whole
    rw [whole] at near
    simpa [factor, isNegative] using near
  · rw [Int.cast_zero, zero_mul]
    exact isNearestParts_zero zeroSign
  · rw [Int.compare_eq_gt.mpr above]
    have near := isNearestParts_round .positive (show mantissa.toNat ≠ 0 by omega) exponent
    have whole : ((mantissa.toNat : ℤ) : ℝ) = (mantissa : ℝ) := by rw [Int.toNat_of_nonneg above.le]
    rw [Int.cast_natCast] at whole
    rw [whole] at near
    simpa [factor, isNegative] using near

end Parts

section Operations

variable {a b : UnpackedFloat}

private theorem isNearestParts_add (canonicalA : IsCanonical a) (finiteA : a.isFinite = true)
    (canonicalB : IsCanonical b) (finiteB : b.isFinite = true) :
    IsNearestParts (UnpackedFloat.add Format.binary64 a b) (partsValue a + partsValue b) := by
  cases a with
  | notANumber => cases finiteA
  | infinity => cases finiteA
  | zero s =>
    rw [partsValue_zero, zero_add]
    cases b with
    | notANumber => cases finiteB
    | infinity => cases finiteB
    | zero t =>
      rw [UnpackedFloat.add]
      split_ifs <;> exact isNearestParts_zero _
    | finite => exact isNearestParts_self canonicalB rfl
  | finite s m e m_pos =>
    cases b with
    | notANumber => cases finiteB
    | infinity => cases finiteB
    | zero t =>
      rw [partsValue_zero, add_zero]
      exact isNearestParts_self canonicalA rfl
    | finite t n f n_pos =>
      have left := decreaseExponent_value m e (min e f)
      have right := decreaseExponent_value n f (min e f)
      rw [decreaseExponent_of_le (min_le_left e f)] at left
      rw [decreaseExponent_of_le (min_le_right e f)] at right
      have near := isNearestParts_normalize
        (s.apply (decreaseExponent m e (min e f)).1 + t.apply (decreaseExponent n f (min e f)).1) (min e f) .positive
      rw [Int.cast_add, cast_apply, cast_apply, Int.cast_natCast, Int.cast_natCast, add_mul, mul_assoc, mul_assoc,
        left, right] at near
      exact near

/-- A difference is the sum with the negated subtrahend. -/
theorem sub_eq_add (a b : UnpackedFloat) :
    UnpackedFloat.sub Format.binary64 a b = UnpackedFloat.add Format.binary64 a (UnpackedFloat.neg b) := by
  cases a with
  | finite s m e m_pos =>
    cases b with
    | finite t n f n_pos =>
      have negated : ∀ k : ℤ, (-t).apply k = -t.apply k := by
        intro k
        cases t
        · exact (neg_neg k).symm
        · rfl
      rw [UnpackedFloat.sub, UnpackedFloat.neg, UnpackedFloat.add]
      simp only [negated, Int.sub_eq_add_neg]
    | _ => rfl
  | _ => cases b <;> rfl

private theorem partsValue_neg (b : UnpackedFloat) : partsValue (UnpackedFloat.neg b) = -partsValue b := by
  cases b with
  | finite => rw [UnpackedFloat.neg, partsValue_finite, partsValue_finite, factor_neg, neg_mul]
  | _ => exact neg_zero.symm

private theorem isNearestParts_sub (canonicalA : IsCanonical a) (finiteA : a.isFinite = true)
    (canonicalB : IsCanonical b) (finiteB : b.isFinite = true) :
    IsNearestParts (UnpackedFloat.sub Format.binary64 a b) (partsValue a - partsValue b) := by
  have canonical : IsCanonical (UnpackedFloat.neg b) := by cases b <;> exact canonicalB
  have finite : (UnpackedFloat.neg b).isFinite = true := by cases b <;> exact finiteB
  have near := isNearestParts_add canonicalA finiteA canonical finite
  rwa [partsValue_neg, ← sub_eq_add, ← sub_eq_add_neg] at near

/-- A mantissa that is full, or has the least exponent, is not short of bits. -/
theorem deep_of_full {mantissa : ℕ} {exponent : ℤ} (full : exponent ≤ -1074 ∨ 2 ^ 52 ≤ mantissa) :
    exponent ≤ placedExponent mantissa exponent := by
  rw [placedExponent]
  rcases full with least | full
  · exact le_max_of_le_right least
  · have bits : 52 ≤ mantissa.log2 := (Nat.le_log2 (by omega)).mpr full
    exact le_max_of_le_left (by omega)

private theorem isNearestParts_mul (canonicalA : IsCanonical a) (finiteA : a.isFinite = true)
    (canonicalB : IsCanonical b) (finiteB : b.isFinite = true) :
    IsNearestParts (UnpackedFloat.mul Format.binary64 a b) (partsValue a * partsValue b) := by
  cases a with
  | notANumber => cases finiteA
  | infinity => cases finiteA
  | zero s =>
    rw [partsValue_zero, zero_mul]
    cases b with
    | notANumber => cases finiteB
    | infinity => cases finiteB
    | zero t => exact isNearestParts_zero _
    | finite => exact isNearestParts_zero _
  | finite s m e m_pos =>
    cases b with
    | notANumber => cases finiteB
    | infinity => cases finiteB
    | zero t =>
      rw [partsValue_zero, mul_zero]
      exact isNearestParts_zero _
    | finite t n f n_pos =>
      obtain ⟨-, -, fullM⟩ := canonicalA
      obtain ⟨-, -, fullN⟩ := canonicalB
      -- Two subnormal factors are far below the least exponent; otherwise one mantissa is full already.
      have full : e + f ≤ -1074 ∨ 2 ^ 52 ≤ m * n := by
        rcases fullM with leastE | fullM
        · rcases fullN with leastF | fullN
          · exact .inl (by omega)
          · exact .inr (fullN.trans (Nat.le_mul_of_pos_left n m_pos))
        · exact .inr (fullM.trans (Nat.le_mul_of_pos_right m n_pos))
      have near := isNearestParts_roundExact (s * t) (deep_of_full full)
      have value : factor (s * t) * (((m * n : ℕ) : ℝ) * 2 ^ (e + f)) =
          partsValue (.finite s m e m_pos) * partsValue (.finite t n f n_pos) := by
        rw [partsValue_finite, partsValue_finite, factor_mul, zpow_add₀ two_ne_zero, Nat.cast_mul]
        ring
      rwa [value] at near

/-- The accuracy of a fraction tells of the fraction. -/
theorem tells_accuracyOfFraction {num den : ℕ} (short : num < den) :
    Tells (accuracyOfFraction num den) (num / den : ℝ) := by
  have den_pos : (0 : ℝ) < den := by exact_mod_cast Nat.zero_lt_of_lt short
  rw [accuracyOfFraction]
  split_ifs with zero
  · rw [zero, Nat.cast_zero, zero_div, Tells]
  · have num_pos : (0 : ℝ) < num := by exact_mod_cast Nat.pos_of_ne_zero zero
    have num_lt : (num : ℝ) < den := by exact_mod_cast short
    rcases lt_trichotomy (2 * num) den with below | half | above
    · have twice : (2 * num : ℝ) < den := by exact_mod_cast below
      rw [Nat.compare_eq_lt.mpr below, Tells, ← add_div, ← two_mul, div_lt_one den_pos]
      exact ⟨by positivity, twice⟩
    · have twice : (2 * num : ℝ) = den := by exact_mod_cast half
      rw [Nat.compare_eq_eq.mpr half, Tells, ← add_div, ← two_mul, twice, div_self den_pos.ne']
    · have twice : (den : ℝ) < 2 * num := by exact_mod_cast above
      rw [Nat.compare_eq_gt.mpr above, Tells, ← add_div, ← two_mul, one_lt_div den_pos, div_lt_one den_pos]
      exact ⟨twice, num_lt⟩

/-- The quotient of two mantissas, shifted far enough. -/
theorem divCore_spec {m n : ℕ} (m_pos : 0 < m) (n_pos : 0 < n) (e f : ℤ) :
    ∃ (quotient : ℕ) (exponent : ℤ) (accuracy : Accuracy) (rest : ℝ),
      divCore Format.binary64 m e n f = (quotient, exponent, accuracy) ∧ Tells accuracy rest ∧
        exponent ≤ placedExponent quotient exponent ∧
        (quotient + rest) * 2 ^ exponent = (m * 2 ^ e) / (n * 2 ^ f : ℝ) := by
  have den_pos : (0 : ℝ) < n := by exact_mod_cast n_pos
  generalize chosen : min (e - f) (Format.binary64.targetExponent (totalExponent m e - totalExponent n f)) = exponent
  have below : exponent ≤ e - f := chosen ▸ min_le_left _ _
  obtain ⟨places, shifted⟩ : ∃ places : ℕ, (places : ℤ) = e - f - exponent := ⟨(e - f - exponent).toNat, by omega⟩
  refine ⟨m * 2 ^ places / n, exponent, accuracyOfFraction (m * 2 ^ places % n) n, (m * 2 ^ places % n : ℕ) / n, ?_,
    tells_accuracyOfFraction (Nat.mod_lt _ n_pos), deep_of_full ?_, ?_⟩
  · rw [divCore, chosen, ← shifted, Int.toNat_natCast, Nat.shiftLeft_eq]
  · rcases le_or_gt exponent (-1074) with least | high
    · exact .inl least
    · right
      -- The target exponent is that of the least quotient, so the quotient fills the mantissa.
      have enough : n.log2 + 53 ≤ m.log2 + places := by
        have room : exponent ≤ Format.binary64.targetExponent (totalExponent m e - totalExponent n f) :=
          chosen ▸ min_le_right _ _
        simp only [Format.targetExponent, totalExponent, Format.mantissaBits, Format.minExponent] at room
        norm_num at room
        omega
      rw [Nat.le_div_iff_mul_le n_pos]
      calc 2 ^ 52 * n ≤ 2 ^ 52 * 2 ^ (n.log2 + 1) := Nat.mul_le_mul_left _ Nat.lt_log2_self.le
        _ = 2 ^ (n.log2 + 53) := by rw [← Nat.pow_add]; congr 1; omega
        _ ≤ m * 2 ^ places := pow_le_mul_pow m_pos.ne' enough
  · have divided : ((m * 2 ^ places / n : ℕ) : ℝ) + ((m * 2 ^ places % n : ℕ) : ℝ) / n = m * 2 ^ places / n := by
      have whole : ((m * 2 ^ places : ℕ) : ℝ) = n * (m * 2 ^ places / n : ℕ) + (m * 2 ^ places % n : ℕ) := by
        exact_mod_cast (Nat.div_add_mod (m * 2 ^ places) n).symm
      rw [Nat.cast_mul, Nat.cast_pow, Nat.cast_ofNat] at whole
      rw [whole]
      field_simp
    have power : (2 : ℝ) ^ places * 2 ^ exponent = 2 ^ e / 2 ^ f := by
      rw [← zpow_natCast, shifted, ← zpow_add₀ two_ne_zero, ← zpow_sub₀ two_ne_zero]
      congr 1
      ring
    rw [divided, mul_div_mul_comm, ← power]
    ring

private theorem isNearestParts_div (finiteA : a.isFinite = true) (finiteB : b.isFinite = true)
    (nonzero : partsValue b ≠ 0) :
    IsNearestParts (UnpackedFloat.div Format.binary64 a b) (partsValue a / partsValue b) := by
  cases b with
  | notANumber => cases finiteB
  | infinity => cases finiteB
  | zero t => exact (nonzero rfl).elim
  | finite t n f n_pos =>
    cases a with
    | notANumber => cases finiteA
    | infinity => cases finiteA
    | zero s =>
      rw [partsValue_zero, zero_div]
      exact isNearestParts_zero _
    | finite s m e m_pos =>
      obtain ⟨quotient, exponent, accuracy, rest, found, tells, deep, value⟩ := divCore_spec m_pos n_pos e f
      have near := isNearestParts_roundWithAccuracy (s / t) tells deep
      rw [value, factor_div, ← mul_div_mul_comm] at near
      rw [UnpackedFloat.div, found]
      exact near

/-- The whole root of a number and what it leaves tell of the root. -/
theorem tells_sqrt (n : ℕ) :
    Tells (if n - n.sqrt * n.sqrt = 0 then .exact
        else .inexact (if n - n.sqrt * n.sqrt ≤ n.sqrt then .lt else .gt)) (√n - n.sqrt) := by
  generalize whole : n.sqrt = root
  have lower : root * root ≤ n := whole ▸ Nat.sqrt_le n
  have upper : n < (root + 1) * (root + 1) := whole ▸ Nat.lt_succ_sqrt n
  have root_nonneg : (0 : ℝ) ≤ root := Nat.cast_nonneg root
  have short : √n < root + 1 := by
    rw [Real.sqrt_lt' (by positivity), pow_two]
    exact_mod_cast upper
  split_ifs with square below
  · have exact : (n : ℝ) = root * root := by exact_mod_cast (by omega : n = root * root)
    rw [Tells, exact, Real.sqrt_mul_self root_nonneg, sub_self]
  · have above : (root : ℝ) < √n := by
      rw [Real.lt_sqrt root_nonneg, pow_two]
      exact_mod_cast (by omega : root * root < n)
    have half : √n < root + 1 / 2 := by
      have room : (n : ℝ) ≤ root * root + root := by exact_mod_cast (by omega : n ≤ root * root + root)
      rw [Real.sqrt_lt' (by positivity)]
      linarith [show ((root : ℝ) + 1 / 2) ^ 2 = root * root + root + 1 / 4 by ring]
    constructor <;> linarith
  · have half : root + 1 / 2 < √n := by
      have room : (root * root + root + 1 : ℝ) ≤ n := by exact_mod_cast (by omega : root * root + root + 1 ≤ n)
      rw [Real.lt_sqrt (by positivity)]
      linarith [show ((root : ℝ) + 1 / 2) ^ 2 = root * root + root + 1 / 4 by ring]
    constructor <;> linarith

/-- The root of a mantissa, shifted far enough. -/
theorem sqrtCore_spec {m : ℕ} (m_pos : 0 < m) (e : ℤ) :
    ∃ (root : ℕ) (exponent : ℤ) (accuracy : Accuracy) (rest : ℝ),
      sqrtCore Format.binary64 m e = (root, exponent, accuracy) ∧ Tells accuracy rest ∧
        exponent ≤ placedExponent root exponent ∧ (root + rest) * 2 ^ exponent = √(m * 2 ^ e) := by
  generalize chosen : min (e.ediv 2) (Format.binary64.targetExponent ((totalExponent m e + 1).ediv 2)) = exponent
  have below : 2 * exponent ≤ e := by
    have half : exponent ≤ e / 2 := chosen ▸ min_le_left _ _
    omega
  obtain ⟨places, shifted⟩ : ∃ places : ℕ, (places : ℤ) = e - 2 * exponent := ⟨(e - 2 * exponent).toNat, by omega⟩
  refine ⟨(m * 2 ^ places).sqrt, exponent, _, _, ?_, tells_sqrt (m * 2 ^ places), deep_of_full ?_, ?_⟩
  · rw [sqrtCore, chosen, ← shifted, Int.toNat_natCast, Nat.shiftLeft_eq]
  · rcases le_or_gt exponent (-1074) with least | high
    · exact .inl least
    · right
      -- A radicand of 105 bits has a root of 53.
      have enough : 104 ≤ m.log2 + places := by
        have room : exponent ≤ Format.binary64.targetExponent ((totalExponent m e + 1) / 2) := chosen ▸ min_le_right _ _
        simp only [Format.targetExponent, totalExponent, Format.mantissaBits, Format.minExponent] at room
        norm_num at room
        omega
      rw [Nat.le_sqrt]
      calc 2 ^ 52 * 2 ^ 52 = 2 ^ 104 := by rw [← Nat.pow_add]
        _ ≤ m * 2 ^ places := pow_le_mul_pow m_pos.ne' enough
  · have square : (m * 2 ^ e : ℝ) = (m * 2 ^ places : ℕ) * (2 ^ exponent * 2 ^ exponent) := by
      rw [Nat.cast_mul, Nat.cast_pow, Nat.cast_ofNat, ← zpow_natCast, shifted, mul_assoc, ← zpow_add₀ two_ne_zero,
        ← zpow_add₀ two_ne_zero]
      congr 2
      ring
    rw [add_sub_cancel, square, Real.sqrt_mul (Nat.cast_nonneg _), Real.sqrt_mul_self (by positivity)]

private theorem isNearestParts_sqrt (finite : a.isFinite = true) (nonneg : 0 ≤ partsValue a) :
    IsNearestParts (UnpackedFloat.sqrt Format.binary64 a) (√(partsValue a)) := by
  cases a with
  | notANumber => cases finite
  | infinity => cases finite
  | zero s =>
    rw [partsValue_zero, Real.sqrt_zero]
    exact isNearestParts_zero _
  | finite s m e m_pos =>
    have positive : (0 : ℝ) < m * 2 ^ e := by positivity
    cases s with
    | negative =>
      rw [partsValue_finite] at nonneg
      norm_num [factor, isNegative] at nonneg
      linarith
    | positive =>
      obtain ⟨root, exponent, accuracy, rest, found, tells, deep, value⟩ := sqrtCore_spec m_pos e
      have near := isNearestParts_roundWithAccuracy .positive tells deep
      have plain : factor .positive = 1 := rfl
      rw [value, plain, one_mul] at near
      rw [UnpackedFloat.sqrt, found, partsValue_finite, plain, one_mul]
      exact near

end Operations

section Floats

variable {x y : Float}

/-- The sum of finite doubles is the nearest to the sum of their numbers. -/
theorem isNearest_add (finiteX : x.isFinite = true) (finiteY : y.isFinite = true) :
    IsNearest (x + y) (real x + real y) := by
  rw [real_eq_partsValue, real_eq_partsValue]
  exact (isNearestParts_add (isCanonical_unpack _) finiteX (isCanonical_unpack _) finiteY).pack

theorem isNearest_sub (finiteX : x.isFinite = true) (finiteY : y.isFinite = true) :
    IsNearest (x - y) (real x - real y) := by
  rw [real_eq_partsValue, real_eq_partsValue]
  exact (isNearestParts_sub (isCanonical_unpack _) finiteX (isCanonical_unpack _) finiteY).pack

theorem isNearest_mul (finiteX : x.isFinite = true) (finiteY : y.isFinite = true) :
    IsNearest (x * y) (real x * real y) := by
  rw [real_eq_partsValue, real_eq_partsValue]
  exact (isNearestParts_mul (isCanonical_unpack _) finiteX (isCanonical_unpack _) finiteY).pack

theorem isNearest_div (finiteX : x.isFinite = true) (finiteY : y.isFinite = true) (nonzero : real y ≠ 0) :
    IsNearest (x / y) (real x / real y) := by
  rw [real_eq_partsValue] at nonzero
  rw [real_eq_partsValue, real_eq_partsValue]
  exact (isNearestParts_div finiteX finiteY nonzero).pack

theorem isNearest_sqrt (finite : x.isFinite = true) (nonneg : 0 ≤ real x) : IsNearest x.sqrt (√(real x)) := by
  rw [real_eq_partsValue] at nonneg ⊢
  exact (isNearestParts_sqrt finite nonneg).pack

/-- The magnitude of a finite double is the double of its magnitude. -/
theorem abs_spec (finite : x.isFinite = true) : x.abs.isFinite = true ∧ real x.abs = |real x| := by
  have canonical : IsCanonical (UnpackedFloat.abs x.toModel.unpack) := by
    have whole := isCanonical_unpack x.toModel
    cases parts : x.toModel.unpack <;> rw [parts] at whole <;> exact whole
  have still : (UnpackedFloat.abs x.toModel.unpack).isFinite = true := by
    change x.toModel.unpack.isFinite = true at finite
    cases parts : x.toModel.unpack <;> rw [parts] at finite <;> exact finite
  have value : partsValue (UnpackedFloat.abs x.toModel.unpack) = |real x| := by
    rw [real_eq_partsValue]
    cases x.toModel.unpack with
    | finite sign mantissa exponent positive =>
      have nonneg : 0 ≤ (mantissa * 2 ^ exponent : ℝ) := by positivity
      rw [UnpackedFloat.abs, partsValue_finite, partsValue_finite, abs_factor_mul nonneg]
      exact one_mul _
    | _ => exact abs_zero.symm
  have near : IsNearest x.abs |real x| := value ▸ (isNearestParts_self canonical still).pack
  have line := (onLine_real finite).abs
  obtain ⟨finiteAbs, -⟩ := near.isFinite_of_le line (abs_real_lt finite) (abs_abs (real x)).le
  exact ⟨finiteAbs, (near.real_eq finiteAbs).trans line⟩

private theorem ofFloat_one : ofFloat 1.0 = .finite false unitsPerOne := by decide +kernel

@[simp] theorem real_one : real 1.0 = 1 := by
  rw [real_of_finite ofFloat_one, unitsPerOne_mul_unit, if_neg Bool.false_ne_true, one_mul]

theorem isFinite_one : (1.0 : Float).isFinite = true := (isFinite_iff _).mpr ⟨_, _, ofFloat_one⟩

/-- A count of fifty-three bits is a double itself. -/
theorem isNearest_toUInt64 {count : ℕ} (short : count < 2 ^ 53) : IsNearest count.toUInt64.toFloat count := by
  have word : count.toUInt64.toNat = count := by
    rw [Nat.toUInt64, UInt64.toNat_ofNat']
    omega
  have near : IsNearest count.toUInt64.toFloat ((count.toUInt64.toNat : ℤ) * 2 ^ (0 : ℤ)) :=
    (isNearestParts_normalize count.toUInt64.toNat 0 .positive).pack
  rwa [word, Int.cast_natCast, zpow_zero, mul_one] at near

theorem isFinite_of_count {x : Float} {count : ℕ} (near : IsNearest x count) (few : count ≤ 2 ^ 53) :
    x.isFinite = true ∧ real x = count := by
  have line : OnLine count := onLine_natCast few
  have small : (count : ℝ) ≤ 2 ^ (53 : ℤ) := by exact_mod_cast few
  have room : (2 : ℝ) ^ (53 : ℤ) < 2 ^ (1024 : ℤ) := zpow_lt_zpow_right₀ one_lt_two (by norm_num)
  obtain ⟨finite, -⟩ := near.isFinite_of_le line (small.trans_lt room) (abs_of_nonneg (Nat.cast_nonneg count)).le
  exact ⟨finite, (near.real_eq finite).trans line⟩

/-- The double of a count is the nearest to it. -/
theorem isNearest_ofNat (count : ℕ) : IsNearest (Float.ofNat count) count := by
  have unfolded : Float.ofNat count = Float.ofScientific count false 0 := by
    rw [Float.ofNat]
    rfl
  rw [unfolded, Float.ofScientific]
  -- Short counts are converted as words; for others the mantissa is scaled by a power of two and rounded once.
  by_cases short : count < 2 ^ 53
  · rw [dif_pos ⟨short, Nat.zero_le 22⟩, if_neg Bool.false_ne_true]
    obtain ⟨finite, exact⟩ := isFinite_of_count (isNearest_toUInt64 short) short.le
    have near := isNearest_mul finite isFinite_one
    rwa [exact, real_one, mul_one] at near
  · rw [dif_neg fun fast => short fast.1]
    have scaled : UnpackedFloat.ofScientific Format.binary64 count 0 =
        roundWithAccuracy Format.binary64 .positive (count * 2 ^ 53) (-53) .exact := by
      rw [UnpackedFloat.ofScientific, dif_neg (by omega), if_neg (by decide), if_neg (by simp), if_pos le_rfl]
      simp [UnpackedFloat.mul, Nat.shiftLeft_eq, Format.mantissaBits]
      rfl
    have full : 2 ^ 52 ≤ count * 2 ^ 53 := by omega
    have near := (@isNearestParts_roundExact _ (-53) .positive (deep_of_full (.inr full))).pack
    have value : factor .positive * ((count * 2 ^ 53 : ℕ) * 2 ^ (-53 : ℤ)) = count := by
      have plain : factor .positive = 1 := rfl
      rw [plain, one_mul, Nat.cast_mul, Nat.cast_pow, Nat.cast_ofNat, ← zpow_natCast, mul_assoc,
        ← zpow_add₀ two_ne_zero]
      norm_num
    rw [value, ← scaled] at near
    exact near

end Floats

section Traces

variable {x y : Float}

/-- What is packed as a finite double was finite. -/
theorem isFinite_of_pack {parts : UnpackedFloat} (finite : (Float.ofModel (Float.Model.pack parts)).isFinite = true) :
    parts.isFinite = true := by
  change (Float.Model.pack parts).unpack.isFinite = true at finite
  cases parts with
  | notANumber =>
    rw [unpack_pack, UnpackedFloat.pack, unpack_packedNaN] at finite
    cases finite
  | infinity =>
    rw [unpack_pack, UnpackedFloat.pack, unpack_packedInfinity] at finite
    cases finite
  | zero => rfl
  | finite => rfl

private theorem isFinite_of_add_parts {a b : UnpackedFloat}
    (finite : (UnpackedFloat.add Format.binary64 a b).isFinite = true) :
    a.isFinite = true ∧ b.isFinite = true := by
  cases a with
  | notANumber => cases finite
  | infinity s =>
    cases b with
    | infinity t =>
      rw [UnpackedFloat.add] at finite
      split_ifs at finite <;> cases finite
    | _ => cases finite
  | _ =>
    cases b with
    | notANumber => cases finite
    | infinity => cases finite
    | _ => exact ⟨rfl, rfl⟩

private theorem isFinite_of_mul_parts {a b : UnpackedFloat}
    (finite : (UnpackedFloat.mul Format.binary64 a b).isFinite = true) :
    a.isFinite = true ∧ b.isFinite = true := by
  cases a with
  | notANumber => cases finite
  | infinity s => cases b <;> cases finite
  | _ =>
    cases b with
    | notANumber => cases finite
    | infinity => cases finite
    | _ => exact ⟨rfl, rfl⟩

private theorem isFinite_of_div_parts {a b : UnpackedFloat}
    (finite : (UnpackedFloat.div Format.binary64 a b).isFinite = true) : a.isFinite = true := by
  cases a with
  | notANumber => cases finite
  | infinity s => cases b <;> cases finite
  | _ => rfl

private theorem isFinite_of_sqrt_parts {a : UnpackedFloat}
    (finite : (UnpackedFloat.sqrt Format.binary64 a).isFinite = true) : a.isFinite = true := by
  cases a with
  | notANumber => cases finite
  | infinity sign => cases sign <;> cases finite
  | _ => rfl

/-- A finite sum had finite summands. -/
theorem isFinite_of_add (finite : (x + y).isFinite = true) : x.isFinite = true ∧ y.isFinite = true :=
  isFinite_of_add_parts (isFinite_of_pack finite)

theorem isFinite_of_sub (finite : (x - y).isFinite = true) : x.isFinite = true ∧ y.isFinite = true := by
  have parts : (UnpackedFloat.sub Format.binary64 x.toModel.unpack y.toModel.unpack).isFinite = true :=
    isFinite_of_pack finite
  rw [sub_eq_add] at parts
  obtain ⟨left, right⟩ := isFinite_of_add_parts parts
  refine ⟨left, ?_⟩
  change y.toModel.unpack.isFinite = true
  cases negated : y.toModel.unpack <;> rw [negated] at right <;> exact right

theorem isFinite_of_mul (finite : (x * y).isFinite = true) : x.isFinite = true ∧ y.isFinite = true :=
  isFinite_of_mul_parts (isFinite_of_pack finite)

/-- A finite quotient may have an infinite divisor, but no infinite dividend. -/
theorem isFinite_of_div (finite : (x / y).isFinite = true) : x.isFinite = true :=
  isFinite_of_div_parts (isFinite_of_pack finite)

/-- What has a finite root is finite itself. -/
theorem isFinite_of_sqrt (finite : x.sqrt.isFinite = true) : x.isFinite = true :=
  isFinite_of_sqrt_parts (isFinite_of_pack finite)

end Traces

end HoldoutLine.Binary64
