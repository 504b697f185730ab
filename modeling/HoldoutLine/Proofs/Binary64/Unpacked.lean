import HoldoutLine.Binary64
import Mathlib

/-! # Doubles by sign, mantissa and exponent

The logic computes with a double by its sign, its mantissa and its exponent; the library reads it as a sign and
a count of units. `ofFloat_eq_ofUnpacked` says that the two readings agree. The comparisons of doubles become
comparisons of units that way, `between_zero_and_one_iff` for the range of a proper share.
-/

namespace HoldoutLine.Binary64

open Float.Model Float.Model.UnpackedFloat

/-- Whether a sign is the negative one. -/
def isNegative : Sign → Bool
  | .negative => true
  | .positive => false

def ofUnpacked : UnpackedFloat → Binary64
  | .notANumber => .notANumber
  | .infinity sign => .infinite (isNegative sign)
  | .zero sign => .finite (isNegative sign) 0
  | .finite sign mantissa exponent _ => .finite (isNegative sign) (mantissa * 2 ^ (exponent + 1074).toNat)

section Fields

variable (bits : BitVec 64)

private theorem toNat_unpackExponent :
    (@unpackExponent Format.binary64 bits).toNat = bits.toNat / 2 ^ 52 % 2 ^ 11 := by
  simp [unpackExponent, Nat.shiftRight_eq_div_pow]

private theorem toNat_unpackMantissa :
    (@unpackMantissa Format.binary64 bits).toNat = bits.toNat % 2 ^ 52 := by
  simp [unpackMantissa]

private theorem toNat_unpackSign :
    (@unpackSign Format.binary64 bits).toNat = bits.toNat / 2 ^ 63 % 2 := by
  simp [unpackSign, Nat.shiftRight_eq_div_pow]

private theorem unpackExponent_eq_ones_iff :
    @unpackExponent Format.binary64 bits = -1#_ ↔ bits.toNat / 2 ^ 52 % 2 ^ 11 = 2047 := by
  rw [← BitVec.toNat_inj, toNat_unpackExponent]
  rfl

private theorem unpackExponent_eq_zero_iff :
    @unpackExponent Format.binary64 bits = 0#_ ↔ bits.toNat / 2 ^ 52 % 2 ^ 11 = 0 := by
  rw [← BitVec.toNat_inj, toNat_unpackExponent]
  rfl

private theorem unpackMantissa_eq_zero_iff :
    @unpackMantissa Format.binary64 bits = 0#_ ↔ bits.toNat % 2 ^ 52 = 0 := by
  rw [← BitVec.toNat_inj, toNat_unpackMantissa]
  rfl

private theorem isNegative_unpackSign :
    isNegative (Sign.ofBitVec (@unpackSign Format.binary64 bits)) =
      decide (bits.toNat / 2 ^ 63 % 2 = 1) := by
  have zero_iff : @unpackSign Format.binary64 bits = 0#1 ↔ bits.toNat / 2 ^ 63 % 2 = 0 := by
    rw [← BitVec.toNat_inj, toNat_unpackSign]
    rfl
  unfold Sign.ofBitVec
  split_ifs with positive
  · rw [zero_iff] at positive
    rw [positive]
    rfl
  · rw [zero_iff] at positive
    have negative : bits.toNat / 2 ^ 63 % 2 = 1 := by omega
    rw [negative]
    rfl

theorem toNat_withImplicitBit (fraction : BitVec 52) :
    (1#1 ++ fraction).toNat = 2 ^ 52 + fraction.toNat := by
  rw [BitVec.toNat_append, ← Nat.shiftLeft_add_eq_or_of_lt fraction.isLt]
  simp [Nat.shiftLeft_eq]

end Fields

/-- The library reads a double as its parts say. -/
theorem ofFloat_eq_ofUnpacked (x : Float) : ofFloat x = ofUnpacked x.toModel.unpack := by
  change ofBits x.toModel.toBits.toBitVec.toNat =
    ofUnpacked (UnpackedFloat.unpack Format.binary64 x.toModel.toBits.toBitVec)
  generalize x.toModel.toBits.toBitVec = bits
  have exponent := toNat_unpackExponent bits
  have mantissa := toNat_unpackMantissa bits
  simp only [ofBits, UnpackedFloat.unpack, Nat.shiftRight_eq_div_pow, Nat.shiftLeft_eq, Nat.one_mul,
    ← isNegative_unpackSign]
  by_cases special : bits.toNat / 2 ^ 52 % 2 ^ 11 = 2047
  · rw [if_pos special, if_pos ((unpackExponent_eq_ones_iff bits).mpr special)]
    by_cases whole : bits.toNat % 2 ^ 52 = 0
    · rw [if_pos whole, if_pos ((unpackMantissa_eq_zero_iff bits).mpr whole), ofUnpacked]
    · rw [if_neg whole, if_neg (mt (unpackMantissa_eq_zero_iff bits).mp whole), ofUnpacked]
  · rw [if_neg special, if_neg (mt (unpackExponent_eq_ones_iff bits).mp special)]
    by_cases subnormal : bits.toNat / 2 ^ 52 % 2 ^ 11 = 0
    · rw [if_pos subnormal, if_pos ((unpackExponent_eq_zero_iff bits).mpr subnormal)]
      by_cases whole : bits.toNat % 2 ^ 52 = 0
      · rw [dif_pos ((unpackMantissa_eq_zero_iff bits).mpr whole), ofUnpacked, whole]
      · have least : ((0 : Nat) - ((Format.binary64.exponentBias : Int) + (52 : Nat)) + 1 + 1074).toNat = 0 := rfl
        rw [dif_neg (mt (unpackMantissa_eq_zero_iff bits).mp whole), ofUnpacked, mantissa, exponent, subnormal,
          least, Nat.pow_zero, Nat.mul_one]
    · have bias : Format.binary64.exponentBias = 1023 := rfl
      rw [if_neg subnormal, if_neg (mt (unpackExponent_eq_zero_iff bits).mp subnormal), ofUnpacked,
        toNat_withImplicitBit, mantissa, exponent, bias]
      congr 3
      omega

/-- A double is finite exactly if it is a number of units. -/
theorem isFinite_iff (x : Float) : x.isFinite = true ↔ ∃ negative units, ofFloat x = .finite negative units := by
  rw [ofFloat_eq_ofUnpacked]
  change x.toModel.unpack.isFinite = true ↔ _
  cases x.toModel.unpack <;> simp [UnpackedFloat.isFinite, ofUnpacked]

theorem isNaN_iff (x : Float) : x.isNaN = true ↔ ofFloat x = .notANumber := by
  rw [ofFloat_eq_ofUnpacked]
  change x.toModel.unpack.isNaN = true ↔ _
  cases x.toModel.unpack <;> simp [UnpackedFloat.isNaN, ofUnpacked]

/-- A mantissa has fifty-three bits; only at the least exponent it may have fewer. -/
theorem unpack_finite_shape {x : Float.Model} {sign : Sign} {mantissa : Nat} {exponent : Int}
    {positive : 0 < mantissa} (parts : x.unpack = .finite sign mantissa exponent positive) :
    mantissa < 2 ^ 53 ∧ -1074 ≤ exponent ∧ (exponent = -1074 ∨ 2 ^ 52 ≤ mantissa) := by
  have fraction : (@unpackMantissa Format.binary64 x.toBits.toBitVec).toNat < 2 ^ 52 := BitVec.isLt _
  have bias : Format.binary64.exponentBias = 1023 := rfl
  simp only [Float.Model.unpack, UnpackedFloat.unpack, bias] at parts
  split_ifs at parts with special whole subnormal whole
  · rw [UnpackedFloat.finite.injEq, subnormal] at parts
    obtain ⟨-, rfl, rfl⟩ := parts
    exact ⟨by omega, by decide, .inl rfl⟩
  · have nonzero : (@unpackExponent Format.binary64 x.toBits.toBitVec).toNat ≠ 0 :=
      fun zero => subnormal (BitVec.eq_of_toNat_eq zero)
    rw [UnpackedFloat.finite.injEq, toNat_withImplicitBit] at parts
    obtain ⟨-, rfl, rfl⟩ := parts
    exact ⟨by omega, by omega, .inr (by omega)⟩

theorem unpack_zero : (0.0 : Float).toModel.unpack = .zero .positive := by
  have bits : (0.0 : Float).toModel.toBits = 0 := by decide +kernel
  rw [Float.Model.unpack, bits]
  rfl

theorem unpack_one : (1.0 : Float).toModel.unpack = .finite .positive (2 ^ 52) (-52) (by decide) := by
  have bits : (1.0 : Float).toModel.toBits = 0x3FF0000000000000 := by decide +kernel
  rw [Float.Model.unpack, bits]
  rfl

theorem lt_iff_unpack (x y : Float) : x < y ↔ x.toModel.unpack.compare y.toModel.unpack = some .lt := by
  change decide (UnpackedFloat.lt x.toModel.unpack y.toModel.unpack = true) = true ↔ _
  rw [decide_eq_true_iff, UnpackedFloat.lt, beq_iff_eq]

theorem le_iff_unpack (x y : Float) :
    x ≤ y ↔ (x.toModel.unpack.compare y.toModel.unpack).any (·.isLE) = true := by
  change decide (UnpackedFloat.le x.toModel.unpack y.toModel.unpack = true) = true ↔ _
  rw [decide_eq_true_iff, UnpackedFloat.le]

/-- With a full mantissa, or nowhere to shift it, the exponent decides first how a magnitude compares with a
power of two. -/
theorem mul_pow_lt_iff (bits limit shift : Nat) {total mantissa : Nat} (sum : bits + limit = total)
    (short : mantissa < 2 ^ (bits + 1)) (full : shift = 0 ∨ 2 ^ bits ≤ mantissa) :
    mantissa * 2 ^ shift < 1 <<< total ↔ shift < limit ∨ shift = limit ∧ mantissa < 2 ^ bits := by
  subst sum
  rw [Nat.one_shiftLeft]
  rcases lt_trichotomy shift limit with lower | rfl | higher
  · have below : mantissa * 2 ^ shift < 2 ^ (bits + limit) := by
      calc mantissa * 2 ^ shift < 2 ^ (bits + 1) * 2 ^ shift :=
            Nat.mul_lt_mul_of_pos_right short (Nat.pow_pos (by decide))
        _ = 2 ^ (bits + 1 + shift) := (Nat.pow_add 2 (bits + 1) shift).symm
        _ ≤ 2 ^ (bits + limit) := Nat.pow_le_pow_right (by decide) (by omega)
    exact iff_of_true below (.inl lower)
  · rw [Nat.pow_add, Nat.mul_lt_mul_right (Nat.pow_pos (by decide))]
    omega
  · have long : 2 ^ bits ≤ mantissa := by omega
    have above : 2 ^ (bits + limit) ≤ mantissa * 2 ^ shift := by
      rw [Nat.pow_add]
      exact Nat.mul_le_mul long (Nat.pow_le_pow_right (by decide) (by omega))
    exact iff_of_false (Nat.not_lt.mpr above) (by omega)

/-- A double lies strictly between zero and one exactly if it is a positive number of units, fewer than make
one. Neither infinity does, nor does what is not a number. -/
theorem between_zero_and_one_iff (x : Float) :
    0.0 < x ∧ x < 1.0 ↔ ∃ units, ofFloat x = .finite false units ∧ 0 < units ∧ units < unitsPerOne := by
  rw [lt_iff_unpack, lt_iff_unpack, unpack_zero, unpack_one, ofFloat_eq_ofUnpacked]
  cases parts : x.toModel.unpack with
  | notANumber => simp [UnpackedFloat.compare, ofUnpacked]
  | infinity sign => cases sign <;> simp [UnpackedFloat.compare, ofUnpacked]
  | zero sign => simp [UnpackedFloat.compare, ofUnpacked]
  | finite sign mantissa exponent positive =>
    obtain ⟨short, -, full⟩ := unpack_finite_shape parts
    cases sign with
    | negative => simp [UnpackedFloat.compare, ofUnpacked, isNegative]
    | positive =>
      have shifted : exponent < -52 ∨ exponent = -52 ∧ mantissa < 2 ^ 52 ↔
          (exponent + 1074).toNat < 1022 ∨ (exponent + 1074).toNat = 1022 ∧ mantissa < 2 ^ 52 := by omega
      have fewer := mul_pow_lt_iff 52 1022 (exponent + 1074).toNat (show 52 + 1022 = 1074 from rfl) short
        (by omega)
      have some_units : 0 < mantissa * 2 ^ (exponent + 1074).toNat :=
        Nat.mul_pos positive (Nat.pow_pos (by decide))
      simp only [UnpackedFloat.compare, ofUnpacked, isNegative, Binary64.finite.injEq, true_and, exists_eq_left',
        some_units, Option.some.injEq, Ordering.then_eq_lt, Int.compare_eq_lt, Int.compare_eq_eq,
        Nat.compare_eq_lt, unitsPerOne, fewer, shifted]

end HoldoutLine.Binary64
