import HoldoutLine.Proofs.Binary64.Nearest
import HoldoutLine.Proofs.Binary64.Unpacked

/-! # Doubles are rounded to the nearest

The logic rounds a mantissa bit by bit: it shifts to the right, remembers two bits of what it drops, and packs what
is left. `ofUnpacked_roundWithAccuracy` says that this comes to the nearest magnitude, and `ofFloat_pack` that
packing changes nothing but numbers that are too large.
-/

namespace HoldoutLine.Binary64

open Float.Model Float.Model.UnpackedFloat

section Accuracy

variable {accuracy : Accuracy} {extended : ExtendedMantissa} {mantissa : ℕ} {rest q : ℝ}

/-- What an accuracy tells of the rest of a number behind its whole part. -/
def Tells : Accuracy → ℝ → Prop
  | .exact, rest => rest = 0
  | .inexact .lt, rest => 0 < rest ∧ rest + rest < 1
  | .inexact .eq, rest => rest + rest = 1
  | .inexact .gt, rest => 1 < rest + rest ∧ rest < 1

theorem Tells.bounds (tells : Tells accuracy rest) : 0 ≤ rest ∧ rest < 1 := by
  cases accuracy with
  | exact =>
    rw [Tells] at tells
    constructor <;> linarith
  | inexact half =>
    cases half with
    | lt =>
      obtain ⟨positive, below⟩ := tells
      constructor <;> linarith
    | eq =>
      rw [Tells] at tells
      constructor <;> linarith
    | gt =>
      obtain ⟨above, short⟩ := tells
      constructor <;> linarith

/-- A mantissa with its two bits describes a number. -/
def Describes (extended : ExtendedMantissa) (q : ℝ) : Prop := Tells extended.accuracy (q - extended.mantissa)

private theorem describes_ofMantissaAndAccuracy (tells : Tells accuracy rest) :
    Describes (.ofMantissaAndAccuracy mantissa accuracy) (mantissa + rest) := by
  cases accuracy with
  | exact => simpa [Describes, ExtendedMantissa.ofMantissaAndAccuracy, ExtendedMantissa.accuracy] using tells
  | inexact half =>
    cases half <;>
      simpa [Describes, ExtendedMantissa.ofMantissaAndAccuracy, ExtendedMantissa.accuracy] using tells

/-- Dropping the last bit halves the number; the two bits keep what is needed of it. -/
theorem Describes.shiftRightOne (describes : Describes extended q) : Describes extended.shiftRightOne (q / 2) := by
  obtain ⟨mantissa, round, sticky⟩ := extended
  have halves : (mantissa : ℝ) = 2 * (mantissa / 2 : ℕ) + (mantissa % 2 : ℕ) := by
    exact_mod_cast (Nat.div_add_mod mantissa 2).symm
  have dropped : q / 2 - (mantissa / 2 : ℕ) = (q - mantissa + (mantissa % 2 : ℕ)) / 2 := by
    rw [halves]
    ring
  rw [Describes, ExtendedMantissa.shiftRightOne, dropped]
  rw [Describes] at describes
  rcases Nat.mod_two_eq_zero_or_one mantissa with even | odd
  · cases round <;> cases sticky <;> simp [even, ExtendedMantissa.accuracy, Tells] at describes ⊢
    case false.false => exact describes
    all_goals constructor <;> linarith
  · cases round <;> cases sticky <;> simp [odd, ExtendedMantissa.accuracy, Tells] at describes ⊢
    case false.false => linarith
    all_goals constructor <;> linarith

private theorem Describes.shiftRight (describes : Describes extended q) (places : ℕ) :
    Describes (extended >>> places) (q / 2 ^ places) := by
  induction places with
  | zero => simpa [HShiftRight.hShiftRight, Nat.repeat] using describes
  | succ places ih =>
    have halved := ih.shiftRightOne
    rw [div_div, ← pow_succ] at halved
    exact halved

/-- The mantissa is rounded to the nearest. -/
theorem Describes.roundedMantissa (describes : Describes extended q) : extended.roundedMantissa = halfEven q := by
  obtain ⟨nonneg, short⟩ := Tells.bounds describes
  have split : q = extended.mantissa + (q - extended.mantissa) := by ring
  rw [split, halfEven_add nonneg short, ExtendedMantissa.roundedMantissa]
  rw [Describes] at describes
  generalize q - extended.mantissa = rest at describes
  cases told : extended.accuracy with
  | exact =>
    rw [told, Tells] at describes
    rw [if_pos (by linarith), Accuracy.roundToNearestEven]
  | inexact half =>
    rw [told] at describes
    cases half with
    | lt => rw [if_pos (by linarith [describes.2]), Accuracy.roundToNearestEven]
    | eq =>
      rw [Tells] at describes
      rw [if_neg (by linarith), if_neg (by linarith), Accuracy.roundToNearestEven]
    | gt => rw [if_neg (by linarith [describes.1]), if_pos (by linarith [describes.1]), Accuracy.roundToNearestEven]

end Accuracy

section Rounding

/-- The parts of a double: fifty-three bits at most, and no fewer unless the exponent is the least one. -/
def IsCanonical : UnpackedFloat → Prop
  | .finite _ mantissa exponent _ => mantissa < 2 ^ 53 ∧ -1074 ≤ exponent ∧ (exponent = -1074 ∨ 2 ^ 52 ≤ mantissa)
  | _ => True

theorem isCanonical_unpack (x : Float.Model) : IsCanonical x.unpack := by
  cases parts : x.unpack with
  | finite => exact unpack_finite_shape parts
  | _ => trivial

/-- The exponent of a double whose leading bit stands at this place. -/
def placedExponent (mantissa : ℕ) (exponent : ℤ) : ℤ := max (mantissa.log2 + exponent - 52) (-1074)

theorem targetExponent_eq (mantissa : ℕ) (exponent : ℤ) :
    Format.binary64.targetExponent (totalExponent mantissa exponent) = placedExponent mantissa exponent := by
  simp only [Format.targetExponent, totalExponent, Format.mantissaBits, Format.minExponent, placedExponent]
  norm_num
  omega

variable {sign : Sign} {mantissa : ℕ} {exponent : ℤ} {accuracy : Accuracy} {rest : ℝ}

/-- A mantissa that fits is not shifted. -/
theorem shift_of_fits (fits : mantissa < 2 ^ 53) (least : -1074 ≤ exponent) :
    shiftToTargetExponent Format.binary64 mantissa exponent .exact = (⟨mantissa, false, false⟩, exponent) := by
  have log_lt : mantissa.log2 < 53 := log2_lt_of_lt (by decide) fits
  have none : (placedExponent mantissa exponent - exponent).toNat = 0 := by
    rw [placedExponent]
    omega
  rw [shiftToTargetExponent, targetExponent_eq, shiftToExponent, none]
  simp [HShiftRight.hShiftRight, Nat.repeat, ExtendedMantissa.ofMantissaAndAccuracy]

/-- A mantissa that was rounded up to the next power of two loses its last bit, which is zero. -/
theorem shift_of_carry (least : -1074 ≤ exponent) :
    shiftToTargetExponent Format.binary64 (2 ^ 53) exponent .exact = (⟨2 ^ 52, false, false⟩, exponent + 1) := by
  have one : (placedExponent (2 ^ 53) exponent - exponent).toNat = 1 := by
    rw [placedExponent, Nat.log2_two_pow]
    omega
  rw [shiftToTargetExponent, targetExponent_eq, shiftToExponent, one]
  simp [HShiftRight.hShiftRight, Nat.repeat, ExtendedMantissa.ofMantissaAndAccuracy, ExtendedMantissa.shiftRightOne]

/-- The first shift keeps the number, in the exponent that its leading bit asks for. -/
theorem shift_describes (tells : Tells accuracy rest) (deep : exponent ≤ placedExponent mantissa exponent) :
    ∃ extended, shiftToTargetExponent Format.binary64 mantissa exponent accuracy =
        (extended, placedExponent mantissa exponent) ∧
      Describes extended ((mantissa + rest) / 2 ^ (placedExponent mantissa exponent - exponent).toNat) := by
  have reached : exponent + ((placedExponent mantissa exponent - exponent).toNat : ℤ) =
      placedExponent mantissa exponent := by omega
  refine ⟨_, ?_, (describes_ofMantissaAndAccuracy tells).shiftRight _⟩
  rw [shiftToTargetExponent, targetExponent_eq, shiftToExponent, reached]

/-- The double of a mantissa that was shifted for the last time. -/
def ofShifted (sign : Sign) (shifted : ExtendedMantissa × ℤ) : UnpackedFloat :=
  if zero : shifted.1.mantissa = 0 then .zero sign
  else .finite sign shifted.1.mantissa shifted.2 (Nat.pos_of_ne_zero zero)

theorem roundWithAccuracy_eq_ofShifted {extended : ExtendedMantissa} {placed : ℤ}
    (shifted : shiftToTargetExponent Format.binary64 mantissa exponent accuracy = (extended, placed)) :
    roundWithAccuracy Format.binary64 sign mantissa exponent accuracy =
      ofShifted sign (shiftToTargetExponent Format.binary64 extended.roundedMantissa placed .exact) := by
  rw [roundWithAccuracy, shifted]
  rfl

/-- What rounding comes to, by the whole number that the mantissa is rounded to. -/
theorem roundWithAccuracy_eq (tells : Tells accuracy rest) (deep : exponent ≤ placedExponent mantissa exponent)
    {rounded : ℕ} (nearby : rounded =
      halfEven ((mantissa + rest) / 2 ^ (placedExponent mantissa exponent - exponent).toNat))
    (few : rounded ≤ 2 ^ 53) :
    roundWithAccuracy Format.binary64 sign mantissa exponent accuracy =
      if zero : rounded = 0 then .zero sign
      else if rounded < 2 ^ 53 then .finite sign rounded (placedExponent mantissa exponent) (Nat.pos_of_ne_zero zero)
      else .finite sign (2 ^ 52) (placedExponent mantissa exponent + 1) (by decide) := by
  obtain ⟨extended, shifted, describes⟩ := shift_describes tells deep
  have least : -1074 ≤ placedExponent mantissa exponent := le_max_right _ _
  rw [roundWithAccuracy_eq_ofShifted shifted, describes.roundedMantissa, ← nearby]
  by_cases zero : rounded = 0
  · subst zero
    rw [shift_of_fits (by decide) least]
    rfl
  · by_cases fits : rounded < 2 ^ 53
    · rw [shift_of_fits fits least, ofShifted, dif_neg zero, dif_neg zero, if_pos fits]
    · obtain rfl : rounded = 2 ^ 53 := by omega
      rw [shift_of_carry least]
      rfl

end Rounding

section Value

variable {sign : Sign} {mantissa : ℕ} {exponent : ℤ} {accuracy : Accuracy} {rest : ℝ}

theorem pow_toNat {power : ℤ} (nonneg : 0 ≤ power) : (2 : ℝ) ^ power.toNat = 2 ^ power := by
  rw [← zpow_natCast, Int.toNat_of_nonneg nonneg]

/-- The leading bit of a mantissa bounds the number that it begins. -/
theorem mantissa_lt (short : rest < 1) : (mantissa + rest : ℝ) < 2 ^ ((mantissa.log2 : ℤ) + 1) := by
  have below : (mantissa + 1 : ℝ) ≤ 2 ^ (mantissa.log2 + 1) := by exact_mod_cast Nat.lt_log2_self
  rw [← Nat.cast_add_one, zpow_natCast]
  linarith

private theorem le_mantissa (nonzero : mantissa ≠ 0) : (2 : ℝ) ^ (mantissa.log2 : ℤ) ≤ mantissa := by
  rw [zpow_natCast]
  exact_mod_cast Nat.log2_self_le nonzero

/-- The spacing at a number of units is the unit of the exponent that its leading bit asks for. -/
theorem spacing_of_placed (nonneg : 0 ≤ rest) (short : rest < 1)
    (deep : exponent ≤ placedExponent mantissa exponent) :
    spacing ⌊(mantissa + rest) * (2 : ℝ) ^ (exponent + 1074)⌋₊ =
      2 ^ (placedExponent mantissa exponent + 1074).toNat := by
  have scale_pos : (0 : ℝ) < 2 ^ (exponent + 1074) := by positivity
  have below : (mantissa + rest) * (2 : ℝ) ^ (exponent + 1074) < 2 ^ ((mantissa.log2 : ℤ) + 1 + (exponent + 1074)) := by
    rw [zpow_add₀ two_ne_zero ((mantissa.log2 : ℤ) + 1)]
    exact mul_lt_mul_of_pos_right (mantissa_lt short) scale_pos
  -- The exponent is the least one there is, or the leading bit decides.
  rcases le_or_gt ((mantissa.log2 : ℤ) + exponent - 52) (-1074) with low | high
  · have least : placedExponent mantissa exponent = -1074 := max_eq_right low
    have small : (mantissa + rest) * (2 : ℝ) ^ (exponent + 1074) < (2 ^ 53 : ℕ) := by
      refine below.trans_le ?_
      have grows : (2 : ℝ) ^ ((mantissa.log2 : ℤ) + 1 + (exponent + 1074)) ≤ 2 ^ (53 : ℤ) :=
        zpow_le_zpow_right₀ one_le_two (by omega)
      exact_mod_cast grows
    rw [least, spacing_floor_of_lt (by positivity) small]
    rfl
  · have placed : placedExponent mantissa exponent = mantissa.log2 + exponent - 52 := max_eq_left high.le
    have nonzero : mantissa ≠ 0 := by
      rintro rfl
      rw [placed, Nat.log2_zero] at deep
      omega
    obtain ⟨power, leads⟩ : ∃ power : ℕ, (power : ℤ) = mantissa.log2 + (exponent + 1074) :=
      ⟨(mantissa.log2 + (exponent + 1074)).toNat, by omega⟩
    have above : ((2 ^ power : ℕ) : ℝ) ≤ (mantissa + rest) * (2 : ℝ) ^ (exponent + 1074) := by
      have leading : (2 : ℝ) ^ (mantissa.log2 : ℤ) ≤ mantissa + rest := by linarith [le_mantissa nonzero]
      have scaled := mul_le_mul_of_nonneg_right leading scale_pos.le
      rw [← zpow_add₀ two_ne_zero, ← leads, zpow_natCast] at scaled
      exact_mod_cast scaled
    have under : (mantissa + rest) * (2 : ℝ) ^ (exponent + 1074) < (2 ^ (power + 1) : ℕ) := by
      have next : (mantissa.log2 : ℤ) + 1 + (exponent + 1074) = (power + 1 : ℕ) := by push_cast; omega
      rw [next, zpow_natCast] at below
      exact_mod_cast below
    rw [spacing_floor above under]
    congr 1
    omega

/-- The number that a mantissa stands for, counted in steps of the exponent that its leading bit asks for. -/
theorem steps_of_placed (rest : ℝ) (deep : exponent ≤ placedExponent mantissa exponent) :
    (mantissa + rest) * (2 : ℝ) ^ (exponent + 1074) / (2 ^ (placedExponent mantissa exponent + 1074).toNat : ℕ) =
      (mantissa + rest) / 2 ^ (placedExponent mantissa exponent - exponent).toNat := by
  have least : -1074 ≤ placedExponent mantissa exponent := le_max_right _ _
  have split : placedExponent mantissa exponent + 1074 =
      (placedExponent mantissa exponent - exponent) + (exponent + 1074) := by ring
  rw [Nat.cast_pow, Nat.cast_ofNat, pow_toNat (by omega), pow_toNat (by omega), split,
    zpow_add₀ two_ne_zero (placedExponent mantissa exponent - exponent)]
  exact mul_div_mul_right _ _ (by positivity)

/-- The steps are fifty-three bits at most, and no fewer above the least exponent. -/
theorem steps_bounds (nonneg : 0 ≤ rest) (short : rest < 1) (deep : exponent ≤ placedExponent mantissa exponent) :
    halfEven ((mantissa + rest) / 2 ^ (placedExponent mantissa exponent - exponent).toNat) ≤ 2 ^ 53 ∧
      (placedExponent mantissa exponent = -1074 ∨
        2 ^ 52 ≤ halfEven ((mantissa + rest) / 2 ^ (placedExponent mantissa exponent - exponent).toNat)) := by
  have places_pos : (0 : ℝ) < 2 ^ (placedExponent mantissa exponent - exponent).toNat := by positivity
  have placed : (mantissa.log2 : ℤ) + exponent - 52 ≤ placedExponent mantissa exponent := le_max_left _ _
  constructor
  · have under : (mantissa + rest) / 2 ^ (placedExponent mantissa exponent - exponent).toNat ≤ (2 ^ 53 : ℕ) := by
      rw [div_le_iff₀ places_pos, pow_toNat (by omega)]
      have grows : (2 : ℝ) ^ ((mantissa.log2 : ℤ) + 1) ≤
          2 ^ (((53 : ℕ) : ℤ) + (placedExponent mantissa exponent - exponent)) :=
        zpow_le_zpow_right₀ one_le_two (by omega)
      rw [zpow_add₀ two_ne_zero ((53 : ℕ) : ℤ), zpow_natCast] at grows
      rw [Nat.cast_pow, Nat.cast_ofNat]
      exact (mantissa_lt short).le.trans grows
    have rounded := halfEven_mono (by positivity) under
    rwa [halfEven_natCast] at rounded
  · rcases le_or_gt ((mantissa.log2 : ℤ) + exponent - 52) (-1074) with low | high
    · exact .inl (max_eq_right low)
    · have top : placedExponent mantissa exponent = mantissa.log2 + exponent - 52 := max_eq_left high.le
      have nonzero : mantissa ≠ 0 := by
        rintro rfl
        rw [top, Nat.log2_zero] at deep
        omega
      have enough : ((2 ^ 52 : ℕ) : ℝ) ≤
          (mantissa + rest) / 2 ^ (placedExponent mantissa exponent - exponent).toNat := by
        have leading : (mantissa.log2 : ℤ) = ((52 : ℕ) : ℤ) + (placedExponent mantissa exponent - exponent) := by
          omega
        have led := le_mantissa nonzero
        rw [leading, zpow_add₀ two_ne_zero ((52 : ℕ) : ℤ), zpow_natCast] at led
        rw [le_div_iff₀ places_pos, pow_toNat (by omega), Nat.cast_pow, Nat.cast_ofNat]
        linarith
      have rounded := halfEven_mono (by positivity) enough
      rw [halfEven_natCast] at rounded
      exact .inr rounded

/-- Rounding a mantissa comes to the nearest magnitude of the number that it stands for, in the parts of a double. -/
theorem ofUnpacked_roundWithAccuracy (sign : Sign) (tells : Tells accuracy rest)
    (deep : exponent ≤ placedExponent mantissa exponent) :
    ofUnpacked (roundWithAccuracy Format.binary64 sign mantissa exponent accuracy) =
        .finite (isNegative sign) (nearest ((mantissa + rest) * 2 ^ (exponent + 1074))) ∧
      IsCanonical (roundWithAccuracy Format.binary64 sign mantissa exponent accuracy) := by
  obtain ⟨nonneg, short⟩ := tells.bounds
  obtain ⟨few, full⟩ := steps_bounds nonneg short deep
  have least : -1074 ≤ placedExponent mantissa exponent := le_max_right _ _
  rw [nearest, spacing_of_placed nonneg short deep, steps_of_placed rest deep, roundWithAccuracy_eq tells deep rfl few]
  generalize halfEven ((mantissa + rest) / 2 ^ (placedExponent mantissa exponent - exponent).toNat) = rounded
    at few full ⊢
  generalize placedExponent mantissa exponent = placed at least full ⊢
  by_cases zero : rounded = 0
  · simp [zero, ofUnpacked, IsCanonical]
  · rw [dif_neg zero]
    by_cases fits : rounded < 2 ^ 53
    · rw [if_pos fits]
      exact ⟨rfl, fits, least, full⟩
    · rw [if_neg fits]
      obtain rfl : rounded = 2 ^ 53 := by omega
      refine ⟨?_, by norm_num, by omega, .inr le_rfl⟩
      have carry : (placed + 1 + 1074).toNat = (placed + 1074).toNat + 1 := by omega
      rw [ofUnpacked, carry, pow_succ]
      congr 1
      ring

end Value

section Packing

/-- Magnitudes that are too large are infinite. -/
def limited : Binary64 → Binary64
  | .finite negative units => ofUnits negative units
  | other => other

theorem unpack_pack (parts : UnpackedFloat) :
    (Float.Model.pack parts).unpack =
      UnpackedFloat.unpack Format.binary64 (UnpackedFloat.pack Format.binary64 parts) := rfl

theorem unpack_packedInfinity (sign : Sign) :
    UnpackedFloat.unpack Format.binary64 (packedInfinity Format.binary64 sign) = .infinity sign := by
  simp [UnpackedFloat.unpack, packedInfinity]

/-- The biased exponent of a double that is neither infinite nor subnormal. -/
theorem toNat_biasedExponent {exponent : ℤ} (least : -1074 ≤ exponent) (below : exponent ≤ 971) :
    (BitVec.ofNat 11 (exponent + (1023 : ℕ) + (52 : ℕ)).toNat).toNat = (exponent + 1075).toNat := by
  rw [BitVec.toNat_ofNat]
  omega

/-- Parts within the range of the exponents are packed without a change. -/
theorem unpack_pack_of_canonical {sign : Sign} {mantissa : ℕ} {exponent : ℤ} {positive : 0 < mantissa}
    (canonical : IsCanonical (.finite sign mantissa exponent positive)) (below : exponent ≤ 971) :
    (Float.Model.pack (.finite sign mantissa exponent positive)).unpack =
      .finite sign mantissa exponent positive := by
  obtain ⟨short, least, full⟩ := canonical
  have bias : Format.binary64.exponentBias = 1023 := rfl
  have biased := toNat_biasedExponent least below
  rw [unpack_pack, UnpackedFloat.pack]
  simp only [bias, Format.mantissaBits]
  rw [if_neg (by omega)]
  by_cases normal : mantissa.log2 + 1 = 1 + 52
  · have log_eq : mantissa.log2 = 52 := by omega
    obtain ⟨above, -⟩ := (Nat.log2_eq_iff positive.ne').mp log_eq
    rw [if_pos normal]
    simp only [UnpackedFloat.unpack, unpackMantissa_packComponents, unpackExponent_packComponents,
      unpackSign_packComponents, Sign.ofBitVec_toBitVec]
    rw [if_neg, if_neg]
    · rw [UnpackedFloat.finite.injEq, toNat_withImplicitBit, BitVec.toNat_ofNat, biased, bias]
      exact ⟨rfl, by omega, by omega⟩
    · intro zero
      rw [zero, BitVec.toNat_zero] at biased
      omega
    · intro ones
      have greatest : (-1#11 : BitVec 11).toNat = 2047 := rfl
      rw [ones, greatest] at biased
      omega
  · -- Without its leading bit a mantissa has the least exponent.
    have log_lt : mantissa.log2 < 53 := log2_lt_of_lt (by decide) short
    have low : mantissa < 2 ^ 52 := (Nat.log2_lt positive.ne').mp (by omega)
    have few : (BitVec.ofNat 52 mantissa).toNat = mantissa := by
      rw [BitVec.toNat_ofNat]
      omega
    rw [if_neg normal]
    simp only [UnpackedFloat.unpack, unpackMantissa_packComponents, unpackExponent_packComponents,
      unpackSign_packComponents, Sign.ofBitVec_toBitVec]
    rw [if_neg (by decide), if_pos trivial, dif_neg]
    · rw [UnpackedFloat.finite.injEq, few, BitVec.toNat_zero, bias]
      exact ⟨rfl, rfl, by omega⟩
    · intro zero
      rw [zero, BitVec.toNat_zero] at few
      omega

/-- Parts beyond the range of the exponents are packed as an infinity. -/
theorem unpack_pack_of_large {sign : Sign} {mantissa : ℕ} {exponent : ℤ} {positive : 0 < mantissa}
    (above : 971 < exponent) :
    (Float.Model.pack (.finite sign mantissa exponent positive)).unpack = .infinity sign := by
  have bias : Format.binary64.exponentBias = 1023 := rfl
  rw [unpack_pack, UnpackedFloat.pack]
  simp only [bias]
  rw [if_pos (by omega)]
  exact unpack_packedInfinity sign

/-- Canonical parts are below the limit exactly if their exponent is in the range. -/
theorem lt_overflowUnits_iff {mantissa : ℕ} {exponent : ℤ} (short : mantissa < 2 ^ 53) (least : -1074 ≤ exponent)
    (full : exponent = -1074 ∨ 2 ^ 52 ≤ mantissa) :
    mantissa * 2 ^ (exponent + 1074).toNat < overflowUnits ↔ exponent ≤ 971 := by
  rw [overflowUnits, mul_pow_lt_iff 52 2046 (exponent + 1074).toNat (show 52 + 2046 = 2098 from rfl) short (by omega)]
  omega

/-- Packing changes nothing but what is too large. -/
theorem ofFloat_pack {parts : UnpackedFloat} (canonical : IsCanonical parts) :
    ofFloat (.ofModel (Float.Model.pack parts)) = limited (ofUnpacked parts) := by
  rw [ofFloat_eq_ofUnpacked]
  change ofUnpacked (Float.Model.pack parts).unpack = _
  cases parts with
  | notANumber =>
    rw [unpack_pack, UnpackedFloat.pack, unpack_packedNaN]
    rfl
  | infinity sign =>
    rw [unpack_pack, UnpackedFloat.pack, unpack_packedInfinity]
    rfl
  | zero sign =>
    rw [unpack_pack, UnpackedFloat.pack, unpack_packedZero, ofUnpacked, limited, ofUnits, if_pos (by decide)]
  | finite sign mantissa exponent positive =>
    obtain ⟨short, least, full⟩ := canonical
    have limit := lt_overflowUnits_iff short least full
    rcases le_or_gt exponent 971 with low | high
    · rw [unpack_pack_of_canonical ⟨short, least, full⟩ low, ofUnpacked, limited, ofUnits, if_pos (limit.mpr low)]
    · rw [unpack_pack_of_large high, ofUnpacked, ofUnpacked, limited, ofUnits, if_neg (mt limit.mp (by omega))]

theorem pack_unpack_self (x : Float.Model) : Float.Model.pack x.unpack = x := by
  obtain ⟨bits, valid⟩ := x
  simp only [Float.Model.pack, Float.Model.unpack, pack_unpack_of_valid valid]

/-- The units of a finite double are on the grid, and fewer than the limit. -/
theorem units_of_finite {x : Float} {negative : Bool} {units : ℕ} (finite : ofFloat x = .finite negative units) :
    OnGrid units ∧ units < overflowUnits := by
  rw [ofFloat_eq_ofUnpacked] at finite
  cases parts : x.toModel.unpack with
  | notANumber => rw [parts] at finite; cases finite
  | infinity sign => rw [parts] at finite; cases finite
  | zero sign =>
    rw [parts] at finite
    cases finite
    exact ⟨dvd_zero _, by decide⟩
  | finite sign mantissa exponent positive =>
    obtain ⟨short, least, full⟩ := unpack_finite_shape parts
    rw [parts] at finite
    cases finite
    refine ⟨onGrid_mul_pow short.le _, (lt_overflowUnits_iff short least full).mpr ?_⟩
    by_contra high
    have packed := pack_unpack_self x.toModel
    rw [parts] at packed
    have large := @unpack_pack_of_large sign mantissa exponent positive (not_le.mp high)
    rw [packed, parts] at large
    cases large

end Packing

end HoldoutLine.Binary64
