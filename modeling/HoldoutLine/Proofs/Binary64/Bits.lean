import HoldoutLine.Proofs.Binary64.Rounding

/-! # Doubles by their bits

The interchange format of a finite double is what its sign and its units say, so the two give the double back
(`toFloat_of_finite`), a zero with its sign. There is one double that is not a number, so reading a double and putting
it together again are inverse to each other: `toFloat_ofFloat`, and `ofFloat_toFloat` for what a double may be.
-/

namespace HoldoutLine.Binary64

variable {negative : Bool} {units : ℕ}

private theorem bitsOfUnits_of_lt (few : units < 2 ^ 52) : bitsOfUnits units = units := by
  have short : units.log2 - 52 = 0 := by
    have := log2_lt_of_lt (by decide) few
    omega
  unfold bitsOfUnits
  rw [short]
  simp

/-- Fifty-three bits stand behind as many places as the exponent field counts. -/
theorem bitsOfUnits_of_full {fraction : ℕ} (short : fraction < 2 ^ 52) (places : ℕ) :
    bitsOfUnits ((2 ^ 52 + fraction) * 2 ^ places) = (places + 1) * 2 ^ 52 + fraction := by
  have log : ((2 ^ 52 + fraction) * 2 ^ places).log2 = places + 52 := by
    rw [Nat.log2_eq_iff (by positivity), Nat.add_comm places 52]
    constructor
    · rw [Nat.pow_add]
      exact Nat.mul_le_mul_right _ (Nat.le_add_right _ _)
    · rw [Nat.add_right_comm, Nat.pow_add]
      exact Nat.mul_lt_mul_of_pos_right (by omega) (by positivity)
  unfold bitsOfUnits
  rw [log, Nat.add_sub_cancel]
  dsimp only
  rw [Nat.shiftLeft_eq, Nat.shiftRight_eq_div_pow, Nat.mul_div_cancel _ (by positivity)]
  ring

/-- The top bit is the sign, and it is put back where it was. -/
theorem sign_bit {bits : ℕ} (fits : bits < 2 ^ 64) : (decide (bits >>> 63 % 2 = 1)).toNat = bits / 2 ^ 63 := by
  have few : bits / 2 ^ 63 < 2 := by omega
  rw [Nat.shiftRight_eq_div_pow, Nat.mod_eq_of_lt few]
  interval_cases bits / 2 ^ 63 <;> rfl

private theorem toBits_ofBits {bits : ℕ} (fits : bits < 2 ^ 64)
    (finite : ofBits bits = .finite negative units) : toBits (.finite negative units) = bits := by
  have fields : bits = bits / 2 ^ 63 * 2 ^ 63 + bits / 2 ^ 52 % 2 ^ 11 * 2 ^ 52 + bits % 2 ^ 52 := by omega
  have fraction_lt : bits % 2 ^ 52 < 2 ^ 52 := Nat.mod_lt _ (by positivity)
  have sign := sign_bit fits
  simp only [ofBits, Nat.shiftRight_eq_div_pow bits 52, Nat.one_shiftLeft] at finite
  split_ifs at finite with special whole subnormal
  · cases finite
    rw [toBits, sign, bitsOfUnits_of_lt fraction_lt, Nat.shiftLeft_eq]
    omega
  · cases finite
    rw [toBits, sign, Nat.shiftLeft_eq (2 ^ 52 + _), bitsOfUnits_of_full fraction_lt, Nat.shiftLeft_eq]
    omega

/-- The sign and the units of a finite double give it back. -/
theorem toFloat_of_finite {x : Float} (finite : ofFloat x = .finite negative units) :
    (Binary64.finite negative units).toFloat = x := by
  rw [toFloat, toBits_ofBits x.toBits.toNat_lt finite, UInt64.ofNat_toNat, Float.ofBits_toBits]

section Inverse

open Float.Model Float.Model.UnpackedFloat

private theorem eq_ofModel_pack (x : Float) : x = .ofModel (Float.Model.pack x.toModel.unpack) := by
  rw [pack_unpack_self]

/-- A double is put together from what it is. -/
theorem toFloat_ofFloat (x : Float) : (ofFloat x).toFloat = x := by
  have read := ofFloat_eq_ofUnpacked x
  cases parts : x.toModel.unpack with
  | notANumber =>
    rw [parts] at read
    rw [read, eq_ofModel_pack x, parts]
    rfl
  | infinity sign =>
    rw [parts] at read
    rw [read, eq_ofModel_pack x, parts]
    cases sign <;> rfl
  | zero sign =>
    rw [parts] at read
    rw [read, ofUnpacked]
    exact toFloat_of_finite read
  | finite sign mantissa exponent positive =>
    rw [parts] at read
    rw [read, ofUnpacked]
    exact toFloat_of_finite read

/-- The sign that is negative if asked for. -/
def signOf (negative : Bool) : Sign := if negative then .negative else .positive

/-- What a double may be: a magnitude on the grid and in the range, if it is finite. -/
def IsDouble : Binary64 → Prop
  | .finite _ units => OnGrid units ∧ units < overflowUnits
  | _ => True

/-- A magnitude on the grid is a mantissa of a double and an exponent. -/
theorem exists_canonical (sign : Sign) (positive : 0 < units) (grid : OnGrid units) :
    ∃ mantissa exponent, ∃ some : 0 < mantissa, IsCanonical (.finite sign mantissa exponent some) ∧
      mantissa * 2 ^ (exponent + 1074).toNat = units := by
  obtain ⟨mantissa, split⟩ := grid
  rw [spacing_eq, Nat.mul_comm] at split
  have some : 0 < mantissa := Nat.pos_of_mul_pos_right (split ▸ positive)
  have step_pos : 0 < 2 ^ (units.log2 - 52) := Nat.two_pow_pos _
  have leads : 2 ^ units.log2 ≤ mantissa * 2 ^ (units.log2 - 52) := split ▸ Nat.log2_self_le positive.ne'
  have below : mantissa * 2 ^ (units.log2 - 52) < 2 ^ (units.log2 + 1) := split ▸ Nat.lt_log2_self
  have shift : ((units.log2 - 52 : ℕ) - 1074 + 1074 : ℤ).toNat = units.log2 - 52 := by omega
  refine ⟨mantissa, (units.log2 - 52 : ℕ) - 1074, some, ⟨?_, by omega, ?_⟩, by rw [shift, ← split]⟩
  · refine Nat.lt_of_mul_lt_mul_right (a := 2 ^ (units.log2 - 52)) (below.trans_le ?_)
    rw [← Nat.pow_add]
    exact Nat.pow_le_pow_right (by decide) (by omega)
  · rcases Nat.lt_or_ge units.log2 52 with short | long
    · exact .inl (by omega)
    · refine .inr (Nat.le_of_mul_le_mul_right (c := 2 ^ (units.log2 - 52)) ?_ step_pos)
      rwa [← Nat.pow_add, Nat.add_sub_cancel' long]

private theorem exists_float {x : Binary64} (double : x.IsDouble) : ∃ y, ofFloat y = x := by
  suffices parts : ∃ parts, IsCanonical parts ∧ limited (ofUnpacked parts) = x by
    obtain ⟨parts, canonical, rfl⟩ := parts
    exact ⟨_, ofFloat_pack canonical⟩
  cases x with
  | notANumber => exact ⟨.notANumber, trivial, rfl⟩
  | infinite negative => exact ⟨.infinity (signOf negative), trivial, by cases negative <;> rfl⟩
  | finite negative units =>
    obtain ⟨grid, room⟩ := double
    rcases Nat.eq_zero_or_pos units with rfl | positive
    · exact ⟨.zero (signOf negative), trivial, by cases negative <;> rfl⟩
    · obtain ⟨mantissa, exponent, some, canonical, same⟩ := exists_canonical (signOf negative) positive grid
      refine ⟨_, canonical, ?_⟩
      rw [ofUnpacked, same, limited, ofUnits, if_pos room]
      cases negative <;> rfl

/-- The doubles are all that a double may be. -/
theorem isDouble_iff {x : Binary64} : x.IsDouble ↔ ∃ y, ofFloat y = x := by
  refine ⟨exists_float, ?_⟩
  rintro ⟨y, rfl⟩
  cases read : ofFloat y with
  | finite negative units => exact units_of_finite read
  | _ => trivial

/-- What a double may be is what the double put together from it is. -/
theorem ofFloat_toFloat {x : Binary64} (double : x.IsDouble) : ofFloat x.toFloat = x := by
  obtain ⟨y, rfl⟩ := isDouble_iff.mp double
  rw [toFloat_ofFloat]

end Inverse

end HoldoutLine.Binary64
