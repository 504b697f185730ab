import HoldoutLine.Decimal.Shortest
import HoldoutLine.Proofs.Decimal.Nearest

/-! # The fewest digits read back

Every number in the rounding interval of a magnitude is nearer to it than to any other magnitude, the ends included
where they belong to the interval (`nearest_of_around`). The search for the fewest digits never leaves that interval
(`search_spec`, one lemma for a grid and an induction over the grids), so what it finds is read as the magnitude it was
made of: `nearest_shortest`.
-/

namespace HoldoutLine

open Binary64

section Ties

variable {q v : ℝ} {whole step : ℕ}

/-- A number no further than a half from a whole number is rounded to it; at a half the whole number has to be even. -/
theorem Binary64.halfEven_of_close (nonneg : 0 ≤ q) (close : |q - whole| ≤ 1 / 2)
    (tie : |q - whole| = 1 / 2 → whole % 2 = 0) : halfEven q = whole := by
  rcases le_or_gt (whole : ℝ) q with above | below
  · obtain ⟨rest, rfl⟩ : ∃ rest, q = whole + rest := ⟨q - whole, by ring⟩
    rw [add_sub_cancel_left] at close tie
    rw [abs_of_nonneg (by linarith)] at close tie
    rw [halfEven_add (by linarith) (by linarith)]
    split_ifs with less more
    · rfl
    · linarith
    · rw [tie (by linarith)]
      rfl
  · -- The number lies in the upper half of the gap below.
    obtain ⟨lower, rfl⟩ : ∃ lower, whole = lower + 1 := Nat.exists_eq_succ_of_ne_zero (by
      rintro rfl
      rw [Nat.cast_zero] at below
      linarith)
    push_cast at close tie below
    obtain ⟨rest, rfl⟩ : ∃ rest, q = lower + rest := ⟨q - lower, by ring⟩
    rw [abs_of_nonpos (by linarith)] at close tie
    rw [halfEven_add (by linarith) (by linarith)]
    split_ifs with less more
    · linarith
    · rfl
    · have even := tie (by linarith)
      omega

/-- A number no further than half of the spacing from a multiple of it is rounded there. -/
theorem Binary64.nearest_of_close (nonneg : 0 ≤ v) (spaced : spacing ⌊v⌋₊ = step)
    (close : 2 * |v - whole * step| ≤ step) (tie : 2 * |v - whole * step| = step → whole % 2 = 0) :
    nearest v = whole * step := by
  have step_pos : (0 : ℝ) < step := by
    rw [← spaced]
    exact_mod_cast spacing_pos _
  have steps : |v / step - whole| = |v - whole * step| / step := by
    rw [← abs_of_pos step_pos, ← abs_div, abs_of_pos step_pos, sub_div, mul_div_cancel_right₀ _ step_pos.ne']
  have rounded : halfEven (v / step) = whole := by
    apply halfEven_of_close (by positivity)
    · rw [steps, div_le_div_iff₀ step_pos two_pos]
      linarith
    · intro half
      rw [steps, div_eq_div_iff step_pos.ne' two_ne_zero] at half
      exact tie (by linarith)
  rw [nearest, spaced, rounded]

end Ties

namespace RoundingInterval

variable {units : ℕ} {v : ℝ}

/-- Membership of real numbers. -/
def Holds (interval : RoundingInterval) (x : ℝ) : Prop :=
  if interval.closed then interval.low ≤ x ∧ x ≤ interval.high else interval.low < x ∧ x < interval.high

theorem Holds.bounds {interval : RoundingInterval} {x : ℝ} (holds : interval.Holds x) :
    (interval.low ≤ x ∧ x ≤ interval.high) ∧ (x = interval.low ∨ x = interval.high → interval.closed = true) := by
  unfold Holds at holds
  split_ifs at holds with closed
  · exact ⟨holds, fun _ => closed⟩
  · refine ⟨⟨holds.1.le, holds.2.le⟩, ?_⟩
    rintro (rfl | rfl)
    · exact (lt_irrefl _ holds.1).elim
    · exact (lt_irrefl _ holds.2).elim

private theorem holds_of_between {interval : RoundingInterval} {x : ℝ} (above : interval.low < x)
    (below : x < interval.high) : interval.Holds x := by
  unfold Holds
  split_ifs
  · exact ⟨above.le, below.le⟩
  · exact ⟨above, below⟩

/-- Counting in a finer unit comes to the same. -/
theorem contains_scale_iff (interval : RoundingInterval) {factor : ℕ} (positive : 0 < factor) (x : ℕ) :
    (interval.scale factor).contains x = true ↔ interval.Holds (x / factor) := by
  have factor_pos : (0 : ℝ) < factor := by exact_mod_cast positive
  unfold contains Holds scale
  dsimp only
  cases interval.closed with
  | false =>
    rw [if_neg Bool.false_ne_true, if_neg Bool.false_ne_true, decide_eq_true_iff, lt_div_iff₀ factor_pos,
      div_lt_iff₀ factor_pos]
    exact_mod_cast Iff.rfl
  | true =>
    rw [if_pos rfl, if_pos rfl, decide_eq_true_iff, le_div_iff₀ factor_pos, div_le_iff₀ factor_pos]
    exact_mod_cast Iff.rfl

/-- The distance to the next magnitude below. -/
def gapBelow (units : ℕ) : ℕ :=
  if units = spacing units <<< 52 ∧ 1 < spacing units then spacing units / 2 else spacing units

private theorem around_eq (units : ℕ) : around units =
    ⟨4 * units - 2 * gapBelow units, 4 * units + 2 * spacing units, units / spacing units % 2 == 0⟩ := rfl

private theorem gapBelow_le (units : ℕ) : gapBelow units ≤ spacing units := by
  unfold gapBelow
  split_ifs
  · exact Nat.div_le_self _ _
  · exact le_rfl

private theorem spacing_le (positive : 0 < units) : spacing units ≤ units := by
  calc spacing units ≤ 2 ^ units.log2 := by
        rw [spacing_eq]
        exact Nat.pow_le_pow_right (by decide) (Nat.sub_le _ _)
    _ ≤ units := Nat.log2_self_le positive.ne'

private theorem gapBelow_le_self (positive : 0 < units) : gapBelow units ≤ units :=
  (gapBelow_le units).trans (spacing_le positive)

private theorem gapBelow_pos (units : ℕ) : 0 < gapBelow units := by
  unfold gapBelow
  split_ifs with power
  · exact Nat.div_pos power.2 two_pos
  · exact spacing_pos units

/-- At a power of two the magnitudes below lie twice as dense, unless they are all the whole numbers. -/
theorem gapBelow_cases (units : ℕ) :
    (∃ bits, units = 2 ^ (bits + 53) ∧ gapBelow units = 2 ^ bits) ∨
      gapBelow units = spacing units ∧ spacing units = 1 ∨
      gapBelow units = spacing units ∧ 2 ^ units.log2 ≠ units := by
  have spaced := spacing_eq units
  unfold gapBelow
  split_ifs with power
  · left
    rw [spaced, Nat.shiftLeft_eq, ← Nat.pow_add] at power
    have many : units.log2 - 52 ≠ 0 := (Nat.one_lt_two_pow_iff.mp power.2)
    obtain ⟨bits, log⟩ : ∃ bits, units.log2 - 52 = bits + 1 := Nat.exists_eq_succ_of_ne_zero many
    refine ⟨bits, ?_, ?_⟩
    · rw [power.1, log]
    · rw [spaced, log, pow_succ, Nat.mul_div_cancel _ two_pos]
  · right
    by_cases single : spacing units = 1
    · exact .inl ⟨rfl, single⟩
    · refine .inr ⟨rfl, fun same => power ⟨?_, lt_of_le_of_ne (spacing_pos units) (Ne.symm single)⟩⟩
      have deep : 52 ≤ units.log2 := by
        by_contra short
        rw [spaced, show units.log2 - 52 = 0 by omega] at single
        exact single rfl
      rw [Nat.shiftLeft_eq, spaced, ← Nat.pow_add, Nat.sub_add_cancel deep, same]

/-- The lower end as a real number. -/
theorem cast_low (positive : 0 < units) : ((around units).low : ℝ) = 4 * units - 2 * gapBelow units := by
  have room : 2 * gapBelow units ≤ 4 * units := by
    have := gapBelow_le_self positive
    omega
  rw [around_eq]
  push_cast [room]
  ring

private theorem cast_high (units : ℕ) : ((around units).high : ℝ) = 4 * units + 2 * spacing units := by
  rw [around_eq]
  push_cast
  ring

private theorem low_pos (positive : 0 < units) : 0 < (around units).low := by
  have := gapBelow_le_self positive
  rw [around_eq]
  dsimp only
  omega

/-- A magnitude lies in its own interval. -/
theorem holds_self (positive : 0 < units) : (around units).Holds (4 * units) := by
  have below : (0 : ℝ) < gapBelow units := by exact_mod_cast gapBelow_pos units
  have above : (0 : ℝ) < spacing units := by exact_mod_cast spacing_pos units
  apply holds_of_between
  · rw [cast_low positive]
    linarith
  · rw [cast_high]
    linarith

/-- Between two multiples of the spacing there is room for the spacing. -/
theorem add_le_of_dvd {d low high : ℕ} (left : d ∣ low) (right : d ∣ high) (less : low < high) : low + d ≤ high := by
  have := Nat.le_of_dvd (Nat.sub_pos_of_lt less) (Nat.dvd_sub right left)
  omega

section Around

variable (grid : OnGrid units) (positive : 0 < units)

include grid

/-- A magnitude is a whole number of steps, an even one where the interval has its ends. -/
theorem exists_steps : ∃ steps, units = steps * spacing units ∧ ((around units).closed = true → steps % 2 = 0) := by
  refine ⟨units / spacing units, (Nat.div_mul_cancel grid).symm, fun closed => ?_⟩
  rwa [around_eq, beq_iff_eq] at closed

/-- A magnitude is a whole number of the gaps below it, an even one where the interval has its ends. -/
theorem exists_gaps : ∃ gaps, units = gaps * gapBelow units ∧ ((around units).closed = true → gaps % 2 = 0) := by
  obtain ⟨steps, same⟩ := exists_steps grid
  unfold gapBelow
  split_ifs with power
  · have even : 2 ∣ spacing units := by
      have many := power.2
      rw [spacing_eq] at many ⊢
      exact dvd_pow_self 2 (Nat.one_lt_two_pow_iff.mp many)
    refine ⟨2 * steps, ?_, fun _ => Nat.mul_mod_right 2 steps⟩
    rw [Nat.mul_comm 2 steps, Nat.mul_assoc, Nat.mul_div_cancel' even]
    exact same.1
  · exact ⟨steps, same⟩

include positive

/-- Up to the next magnitude the spacing stays the same. -/
theorem spacing_floor_of_ge (above : (units : ℝ) ≤ v) (below : v < units + spacing units) :
    spacing ⌊v⌋₊ = spacing units := by
  have room : units + spacing units ≤ 2 ^ (units.log2 + 1) :=
    add_le_of_dvd grid (spacing_dvd_pow (by omega)) Nat.lt_log2_self
  have from_power : ((2 ^ units.log2 : ℕ) : ℝ) ≤ v :=
    le_trans (by exact_mod_cast Nat.log2_self_le positive.ne') above
  have to_power : v < (2 ^ (units.log2 + 1) : ℕ) := below.trans_le (by exact_mod_cast room)
  rw [spacing_floor from_power to_power, spacing_eq]

/-- Down to the next magnitude the spacing is the distance to it. -/
theorem spacing_floor_of_lt_self (above : (units : ℝ) - gapBelow units ≤ v) (below : v < units) :
    spacing ⌊v⌋₊ = gapBelow units := by
  have gap_le : (gapBelow units : ℝ) ≤ units := by exact_mod_cast gapBelow_le_self positive
  rcases gapBelow_cases units with ⟨bits, top, gap⟩ | ⟨gap, single⟩ | ⟨gap, notPower⟩
  · have half : 2 ^ (bits + 52) + 2 ^ bits ≤ 2 ^ (bits + 53) := by
      have : 2 ^ bits ≤ 2 ^ (bits + 52) := Nat.pow_le_pow_right (by decide) (by omega)
      rw [pow_succ 2 (bits + 52)]
      omega
    rw [← top] at half
    have cast : ((2 ^ (bits + 52) : ℕ) : ℝ) + (2 ^ bits : ℕ) ≤ units := by exact_mod_cast half
    have to_power : v < (2 ^ (bits + 52 + 1) : ℕ) := top ▸ below
    rw [gap] at above ⊢
    rw [spacing_floor (by linarith) to_power, Nat.add_sub_cancel]
  · have few : units < 2 ^ 53 := by
      have log := Nat.lt_log2_self (n := units)
      rw [spacing_eq, Nat.pow_eq_one] at single
      exact log.trans_le (Nat.pow_le_pow_right (by decide) (by omega))
    rw [gap, single, spacing_floor_of_lt (by linarith) (below.trans (by exact_mod_cast few))]
  · have room : 2 ^ units.log2 + spacing units ≤ units :=
      add_le_of_dvd (spacing_dvd_pow (by omega)) grid (lt_of_le_of_ne (Nat.log2_self_le positive.ne') notPower)
    have cast : ((2 ^ units.log2 : ℕ) : ℝ) + spacing units ≤ units := by exact_mod_cast room
    have to_power : v < (2 ^ (units.log2 + 1) : ℕ) := below.trans (by exact_mod_cast Nat.lt_log2_self)
    rw [gap] at above ⊢
    rw [spacing_floor (by linarith) to_power, spacing_eq]

/-- A number in the rounding interval of a magnitude is nearest to it. -/
theorem nearest_of_around (inside : (around units).Holds (4 * v)) : nearest v = units := by
  obtain ⟨⟨from_low, to_high⟩, ends⟩ := inside.bounds
  rw [cast_low positive] at from_low ends
  rw [cast_high] at to_high ends
  have gap_le : (gapBelow units : ℝ) ≤ units := by exact_mod_cast gapBelow_le_self positive
  have gap_pos : (0 : ℝ) < gapBelow units := by exact_mod_cast gapBelow_pos units
  have space_pos : (0 : ℝ) < spacing units := by exact_mod_cast spacing_pos units
  have nonneg : 0 ≤ v := by linarith
  rcases le_or_gt (units : ℝ) v with above | below
  · obtain ⟨steps, same, even⟩ := exists_steps grid
    have cast : (units : ℝ) = steps * spacing units := by exact_mod_cast same
    have spaced := spacing_floor_of_ge grid positive above (by linarith)
    have distance : |v - steps * spacing units| = v - units := by
      rw [← cast]
      exact abs_of_nonneg (by linarith)
    refine (nearest_of_close nonneg spaced (by rw [distance]; linarith) fun tie => ?_).trans same.symm
    rw [distance] at tie
    exact even (ends (.inr (by linarith)))
  · obtain ⟨gaps, same, even⟩ := exists_gaps grid
    have cast : (units : ℝ) = gaps * gapBelow units := by exact_mod_cast same
    have spaced := spacing_floor_of_lt_self grid positive (by linarith) below
    have distance : |v - gaps * gapBelow units| = units - v := by
      rw [← cast, abs_sub_comm]
      exact abs_of_nonneg (by linarith)
    refine (nearest_of_close nonneg spaced (by rw [distance]; linarith) fun tie => ?_).trans same.symm
    rw [distance] at tie
    exact even (ends (.inl (by linarith)))

end Around

end RoundingInterval

namespace Decimal

variable {tie : TieRule} {interval : RoundingInterval} {value step digits units : ℕ}

/-- What is taken on a grid lies in the interval. -/
theorem contains_of_onGrid (found : onGrid? tie interval value step = some digits) :
    interval.contains (digits * step) = true := by
  unfold onGrid? at found
  extract_lets lower twiceRest at found
  cases left : interval.contains (lower * step) <;> cases right : interval.contains ((lower + 1) * step) <;>
    rw [left, right] at found <;> dsimp only at found
  · cases found
  · exact Option.some.inj found ▸ right
  · exact Option.some.inj found ▸ left
  · -- Both neighbours lie in it, and one of them is taken.
    have either : digits = lower ∨ digits = lower + 1 := by
      have parity : lower % 2 < 2 := Nat.mod_lt _ two_pos
      split_ifs at found
      · exact .inl (Option.some.inj found).symm
      · exact .inr (Option.some.inj found).symm
      · cases tie <;> have taken := Option.some.inj found <;> omega
    rcases either with rfl | rfl
    · exact left
    · exact right

/-- What the search finds is a point of some grid, and lies in the interval. -/
theorem search_spec (inside : interval.contains value = true) (whole : 4 ∣ value) (grids : ℕ) :
    ∃ places : ℕ, (search tie interval value grids).exponent = places - 1074 ∧
      interval.contains ((search tie interval value grids).digits * (4 * 10 ^ places)) = true := by
  induction grids with
  | zero =>
    refine ⟨0, rfl, ?_⟩
    rw [search, pow_zero, mul_one, Nat.div_mul_cancel whole]
    exact inside
  | succ grids ih =>
    unfold search
    split
    · next digits found =>
      refine ⟨grids + 1, ?_, contains_of_onGrid found⟩
      push_cast
      rfl
    · exact ih

/-- The number that a decimal stands for. -/
noncomputable def toReal (d : Decimal) : ℝ := Numeral.decimal d.digits d.exponent

private theorem stepsPerUnit_eq : stepsPerUnit = Nat.pow 5 1074 := by
  unfold stepsPerUnit
  exact rfl

private theorem stepsPerUnit_pos : 0 < stepsPerUnit := by
  unfold stepsPerUnit
  apply Nat.pow_pos
  decide

/-- A step of the finest grid, in units. -/
theorem step_div_pow {power steps : ℕ} (fine : steps = Nat.pow 5 power) (places : ℕ) :
    (10 : ℝ) ^ places / steps = 10 ^ ((places : ℤ) - power) / 2 ^ (-(power : ℤ)) := by
  have split : (10 : ℝ) ^ power = 5 ^ power * 2 ^ power := by
    rw [← mul_pow]
    norm_num
  rw [zpow_sub₀ (by norm_num), zpow_neg, zpow_natCast, zpow_natCast, zpow_natCast, split, fine, Nat.pow_eq]
  push_cast
  field_simp

private theorem step_div_stepsPerUnit (places : ℕ) :
    (10 : ℝ) ^ places / stepsPerUnit = 10 ^ ((places : ℤ) - 1074) / unit := by
  have fine := stepsPerUnit_eq
  generalize stepsPerUnit = steps at fine ⊢
  rw [unit_eq]
  exact step_div_pow fine places

variable (positive : 0 < units)

include positive

/-- The shortest decimal of a magnitude rounds to it. -/
theorem holds_shortest (tie : TieRule) :
    (RoundingInterval.around units).Holds (4 * ((shortest tie units).toReal / unit)) := by
  have steps_ne : (stepsPerUnit : ℝ) ≠ 0 := by exact_mod_cast stepsPerUnit_pos.ne'
  have inside : ((RoundingInterval.around units).scale stepsPerUnit).contains (4 * units * stepsPerUnit) = true := by
    rw [RoundingInterval.contains_scale_iff _ stepsPerUnit_pos]
    push_cast
    rw [mul_div_cancel_right₀ _ steps_ne]
    exact RoundingInterval.holds_self positive
  have whole : 4 ∣ 4 * units * stepsPerUnit := (dvd_mul_right 4 units).mul_right stepsPerUnit
  obtain ⟨places, exponent, found⟩ := @search_spec tie _ _ inside whole (coarsestGrid (4 * units * stepsPerUnit))
  rw [RoundingInterval.contains_scale_iff _ stepsPerUnit_pos] at found
  change (shortest tie units).exponent = places - 1074 at exponent
  change (RoundingInterval.around units).Holds
    (((shortest tie units).digits * (4 * 10 ^ places) : ℕ) / stepsPerUnit) at found
  have value : (((shortest tie units).digits * (4 * 10 ^ places) : ℕ) : ℝ) / stepsPerUnit =
      4 * ((shortest tie units).toReal / unit) := by
    rw [toReal, Numeral.decimal, exponent, mul_div_assoc, ← step_div_stepsPerUnit]
    push_cast
    ring
  rwa [value] at found

/-- It has a digit that is not zero. -/
theorem shortest_digits_pos (tie : TieRule) : 0 < (shortest tie units).digits := by
  rw [Nat.pos_iff_ne_zero]
  intro zero
  have low := (holds_shortest positive tie).bounds.1.1
  have low_pos : (0 : ℝ) < (RoundingInterval.around units).low := by
    exact_mod_cast RoundingInterval.low_pos positive
  rw [toReal, Numeral.decimal, zero, Nat.cast_zero, zero_mul, zero_div, mul_zero] at low
  linarith

/-- The shortest decimal of a magnitude is read as that magnitude, with either sign. -/
theorem nearest_shortest (grid : OnGrid units) (room : units < overflowUnits) (tie : TieRule) (negative : Bool) :
    Numeral.nearest negative (shortest tie units).digits (shortest tie units).exponent = .finite negative units := by
  have near : nearest ((shortest tie units).toReal / unit) = units :=
    RoundingInterval.nearest_of_around grid positive (holds_shortest positive tie)
  rw [Numeral.nearest_eq_ofUnits, ← toReal, near, ofUnits, if_pos room]

end Decimal

end HoldoutLine
