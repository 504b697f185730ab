import HoldoutLine.Binary64
import Mathlib

/-! # The nearest magnitude

A real number of units has a nearest magnitude on the grid of doubles, an exact half going to the even neighbour.
`nearestUnits_eq_nearest` says that the library finds it for ratios. What is used of it is that it does not change the
order of numbers (`nearest_mono`), leaves the grid where it is (`nearest_of_onGrid`) and lands on it
(`onGrid_nearest`). That it deserves its name say `abs_sub_nearest_le` and, of equally near neighbours, `even_nearest`.
-/

namespace HoldoutLine.Binary64

section HalfEven

/-- The whole number nearest to a number that is not negative; an exact half goes to the even neighbour. -/
noncomputable def halfEven (q : ℝ) : ℕ :=
  if 2 * (q - ⌊q⌋₊) < 1 then ⌊q⌋₊
  else if 1 < 2 * (q - ⌊q⌋₊) then ⌊q⌋₊ + 1
  else ⌊q⌋₊ + ⌊q⌋₊ % 2

variable {p q rest : ℝ} {whole : ℕ}

theorem halfEven_add (nonneg : 0 ≤ rest) (short : rest < 1) :
    halfEven (whole + rest) =
      if 2 * rest < 1 then whole else if 1 < 2 * rest then whole + 1 else whole + whole % 2 := by
  have floor : ⌊(whole : ℝ) + rest⌋₊ = whole := by
    rw [Nat.floor_eq_iff (by positivity)]
    constructor <;> linarith
  rw [halfEven, floor, add_sub_cancel_left]

@[simp] theorem halfEven_natCast (whole : ℕ) : halfEven whole = whole := by
  have zero := @halfEven_add 0 whole le_rfl one_pos
  simpa using zero

/-- Every number that is not negative is a whole number and a rest. -/
theorem exists_whole_rest (nonneg : 0 ≤ q) : ∃ (whole : ℕ) (rest : ℝ), 0 ≤ rest ∧ rest < 1 ∧ q = whole + rest := by
  refine ⟨⌊q⌋₊, q - ⌊q⌋₊, ?_, ?_, by ring⟩
  · linarith [Nat.floor_le nonneg]
  · linarith [Nat.lt_floor_add_one q]

theorem halfEven_mono (nonneg : 0 ≤ p) (le : p ≤ q) : halfEven p ≤ halfEven q := by
  obtain ⟨m, r, r_nonneg, r_short, rfl⟩ := exists_whole_rest nonneg
  obtain ⟨n, s, s_nonneg, s_short, rfl⟩ := exists_whole_rest (nonneg.trans le)
  rw [halfEven_add r_nonneg r_short, halfEven_add s_nonneg s_short]
  have parity : m % 2 < 2 := Nat.mod_lt m (by decide)
  have whole_le : m ≤ n := by
    have : (m : ℝ) < n + 1 := by linarith
    exact Nat.lt_succ_iff.mp (by exact_mod_cast this)
  rcases whole_le.eq_or_lt with rfl | less
  · have rest_le : r ≤ s := by linarith
    split_ifs <;> first | omega | linarith
  · split_ifs <;> omega

/-- The whole part or the next number, by which half the rest is in; both are halves at a tie. -/
private theorem halfEven_cases (nonneg : 0 ≤ rest) (short : rest < 1) :
    (halfEven (whole + rest) = whole ∧ 2 * rest ≤ 1 ∨ halfEven (whole + rest) = whole + 1 ∧ 1 ≤ 2 * rest) ∧
      (2 * rest = 1 → Even (halfEven (whole + rest))) := by
  rw [halfEven_add nonneg short]
  split_ifs with below above
  · exact ⟨.inl ⟨rfl, below.le⟩, fun tie => absurd tie below.ne⟩
  · exact ⟨.inr ⟨rfl, above.le⟩, fun tie => absurd tie above.ne'⟩
  · have tie : 2 * rest = 1 := le_antisymm (not_lt.mp above) (not_lt.mp below)
    rcases Nat.mod_two_eq_zero_or_one whole with even | odd
    · exact ⟨.inl ⟨by rw [even, Nat.add_zero], tie.le⟩, fun _ => Nat.even_iff.mpr (by omega)⟩
    · exact ⟨.inr ⟨by rw [odd], tie.ge⟩, fun _ => Nat.even_iff.mpr (by omega)⟩

/-- No whole number is nearer. -/
theorem abs_sub_halfEven_le (nonneg : 0 ≤ q) (other : ℕ) : |q - halfEven q| ≤ |q - other| := by
  obtain ⟨whole, rest, rest_nonneg, short, rfl⟩ := exists_whole_rest nonneg
  obtain ⟨rounded, -⟩ := @halfEven_cases rest whole rest_nonneg short
  have apart : (other : ℝ) ≤ whole ∨ (whole : ℝ) + 1 ≤ other := by exact_mod_cast Nat.lt_or_ge whole other |>.symm
  rcases rounded with ⟨same, low⟩ | ⟨same, high⟩
  · rw [same, add_sub_cancel_left, abs_of_nonneg rest_nonneg, le_abs]
    exact apart.imp (fun below => by linarith) fun above => by linarith
  · rw [same, Nat.cast_add_one, add_sub_add_left_eq_sub, abs_of_neg (by linarith), le_abs]
    exact apart.imp (fun below => by linarith) fun above => by linarith

theorem two_mul_abs_sub_halfEven_le (nonneg : 0 ≤ q) : 2 * |q - halfEven q| ≤ 1 := by
  obtain ⟨whole, rest, rest_nonneg, short, rfl⟩ := exists_whole_rest nonneg
  obtain ⟨⟨same, low⟩ | ⟨same, high⟩, -⟩ := @halfEven_cases rest whole rest_nonneg short
  · rwa [same, add_sub_cancel_left, abs_of_nonneg rest_nonneg]
  · rw [same, Nat.cast_add_one, add_sub_add_left_eq_sub, abs_of_neg (by linarith)]
    linarith

/-- Where another whole number is as near, the even one is taken. -/
theorem even_halfEven (nonneg : 0 ≤ q) {other : ℕ} (differ : other ≠ halfEven q)
    (near : |q - other| ≤ |q - halfEven q|) : Even (halfEven q) := by
  obtain ⟨whole, rest, rest_nonneg, short, rfl⟩ := exists_whole_rest nonneg
  obtain ⟨rounded, even⟩ := @halfEven_cases rest whole rest_nonneg short
  refine even ?_
  have near_below := (le_abs_self _).trans near
  have near_above := (neg_le_abs _).trans near
  rcases rounded with ⟨same, low⟩ | ⟨same, high⟩
  · rw [same, add_sub_cancel_left, abs_of_nonneg rest_nonneg] at near_below near_above
    rw [same] at differ
    have apart : (other : ℝ) + 1 ≤ whole ∨ (whole : ℝ) + 1 ≤ other := by exact_mod_cast Nat.lt_or_gt_of_ne differ
    rcases apart with below | above <;> linarith
  · rw [same, Nat.cast_add_one, add_sub_add_left_eq_sub, abs_of_neg (by linarith)] at near_below near_above
    rw [same] at differ
    have apart : (other : ℝ) ≤ whole ∨ (whole : ℝ) + 2 ≤ other := by
      rcases Nat.lt_or_gt_of_ne differ with below | above
      · exact .inl (by exact_mod_cast Nat.lt_succ_iff.mp below)
      · exact .inr (by exact_mod_cast above)
    rcases apart with below | above <;> linarith

end HalfEven

/-- The library rounds ratios to whole numbers that way. -/
theorem roundHalfEven_eq_halfEven (num : ℕ) {den : ℕ} (positive : 0 < den) :
    roundHalfEven num den = halfEven (num / den : ℝ) := by
  have den_pos : (0 : ℝ) < den := by exact_mod_cast positive
  have rest_lt : num % den < den := Nat.mod_lt num positive
  have split : (num / den : ℝ) = (num / den : ℕ) + (num % den : ℕ) / den := by
    have whole : (num : ℝ) = den * (num / den : ℕ) + (num % den : ℕ) := by exact_mod_cast (Nat.div_add_mod num den).symm
    field_simp
    linarith
  have below : 2 * ((num % den : ℕ) / den : ℝ) < 1 ↔ 2 * (num % den) < den := by
    rw [← mul_div_assoc, div_lt_one den_pos]
    exact_mod_cast Iff.rfl
  have above : 1 < 2 * ((num % den : ℕ) / den : ℝ) ↔ den < 2 * (num % den) := by
    rw [← mul_div_assoc, one_lt_div den_pos]
    exact_mod_cast Iff.rfl
  have short : ((num % den : ℕ) / den : ℝ) < 1 := by
    rw [div_lt_one den_pos]
    exact_mod_cast rest_lt
  rw [split, halfEven_add (by positivity) short]
  simp only [roundHalfEven, below, above]

section Spacing

variable {units other : ℕ}

theorem spacing_eq (units : ℕ) : spacing units = 2 ^ (units.log2 - 52) := Nat.one_shiftLeft _

theorem spacing_pos (units : ℕ) : 0 < spacing units := by
  rw [spacing_eq]
  positivity

theorem spacing_dvd_pow {power : ℕ} (le : units.log2 - 52 ≤ power) : spacing units ∣ 2 ^ power := by
  rw [spacing_eq]
  exact Nat.pow_dvd_pow 2 le

private theorem spacing_dvd_spacing (le : units.log2 ≤ other.log2) : spacing units ∣ spacing other := by
  rw [spacing_eq other]
  exact spacing_dvd_pow (by omega)

/-- A magnitude that a double may have, as far as its last place goes. -/
def OnGrid (units : ℕ) : Prop := spacing units ∣ units

theorem log2_lt_of_lt {power : ℕ} (positive : 0 < power) (below : units < 2 ^ power) : units.log2 < power := by
  rcases Nat.eq_zero_or_pos units with rfl | nonzero
  · simpa using positive
  · exact (Nat.log2_lt nonzero.ne').mpr below

/-- Fifty-three bits are on the grid, wherever they stand. -/
theorem onGrid_mul_pow {mantissa : ℕ} (short : mantissa ≤ 2 ^ 53) (shift : ℕ) : OnGrid (mantissa * 2 ^ shift) := by
  rcases short.eq_or_lt with rfl | short
  · rw [OnGrid, ← Nat.pow_add]
    exact spacing_dvd_pow (by rw [Nat.log2_two_pow]; omega)
  · have below : mantissa * 2 ^ shift < 2 ^ (53 + shift) := by
      rw [Nat.pow_add]
      exact Nat.mul_lt_mul_of_pos_right short (by positivity)
    have := log2_lt_of_lt (by omega) below
    exact (spacing_dvd_pow (by omega)).trans (Nat.dvd_mul_left _ _)

theorem onGrid_pow (power : ℕ) : OnGrid (2 ^ power) := by
  simpa using onGrid_mul_pow (show 1 ≤ 2 ^ 53 by norm_num) power

end Spacing

/-- The magnitude on the grid of doubles that is nearest to a number of units; an exact half goes to the even
neighbour. -/
noncomputable def nearest (v : ℝ) : ℕ := halfEven (v / spacing ⌊v⌋₊) * spacing ⌊v⌋₊

/-- The spacing at a number between two powers of two. -/
theorem spacing_floor {v : ℝ} {power : ℕ} (above : ((2 ^ power : ℕ) : ℝ) ≤ v) (below : v < (2 ^ (power + 1) : ℕ)) :
    spacing ⌊v⌋₊ = 2 ^ (power - 52) := by
  have nonneg : 0 ≤ v := le_trans (by positivity) above
  have le_floor : 2 ^ power ≤ ⌊v⌋₊ := Nat.le_floor above
  have floor_lt : ⌊v⌋₊ < 2 ^ (power + 1) := (Nat.floor_lt nonneg).mpr below
  have nonzero : ⌊v⌋₊ ≠ 0 := ((Nat.two_pow_pos power).trans_le le_floor).ne'
  rw [spacing_eq, (Nat.log2_eq_iff nonzero).mpr ⟨le_floor, floor_lt⟩]

/-- Below the first fifty-three bits every whole number of units is a magnitude. -/
theorem spacing_floor_of_lt {v : ℝ} (nonneg : 0 ≤ v) (below : v < (2 ^ 53 : ℕ)) : spacing ⌊v⌋₊ = 1 := by
  have log_lt : ⌊v⌋₊.log2 < 53 := log2_lt_of_lt (by decide) ((Nat.floor_lt nonneg).mpr below)
  have none : ⌊v⌋₊.log2 - 52 = 0 := by omega
  rw [spacing_eq, none, pow_zero]

/-- The library finds the nearest magnitude of a ratio. -/
theorem nearestUnits_eq_nearest (num : ℕ) {den : ℕ} (positive : 0 < den) :
    nearestUnits num den = nearest (num / den : ℝ) := by
  have floor : ⌊(num / den : ℝ)⌋₊ = num / den := Nat.floor_div_eq_div num den
  have scaled : (num / (den * spacing (num / den) : ℕ) : ℝ) = num / den / spacing (num / den) := by
    push_cast
    rw [div_div]
  rw [nearestUnits, nearest, floor, roundHalfEven_eq_halfEven num (Nat.mul_pos positive (spacing_pos _)), scaled]

section Nearest

variable {u v : ℝ} {units : ℕ}

private theorem dvd_nearest_of_dvd {d : ℕ} (dvd : d ∣ spacing ⌊v⌋₊) : d ∣ nearest v :=
  dvd.trans (Nat.dvd_mul_left _ _)

/-- The multiples of the spacing at a number are left where they are. -/
private theorem le_nearest_of_dvd (dvd : spacing ⌊v⌋₊ ∣ units) (le : units ≤ v) : units ≤ nearest v := by
  obtain ⟨steps, rfl⟩ := dvd
  have step_pos : (0 : ℝ) < spacing ⌊v⌋₊ := by exact_mod_cast spacing_pos _
  have steps_le : (steps : ℝ) ≤ v / spacing ⌊v⌋₊ := by
    rw [le_div_iff₀ step_pos, mul_comm]
    exact_mod_cast le
  have rounded := halfEven_mono (by positivity) steps_le
  rw [halfEven_natCast] at rounded
  rw [nearest, Nat.mul_comm]
  exact Nat.mul_le_mul_right _ rounded

private theorem nearest_le_of_dvd (nonneg : 0 ≤ v) (dvd : spacing ⌊v⌋₊ ∣ units) (le : v ≤ units) :
    nearest v ≤ units := by
  obtain ⟨steps, rfl⟩ := dvd
  have step_pos : (0 : ℝ) < spacing ⌊v⌋₊ := by exact_mod_cast spacing_pos _
  have le_steps : v / spacing ⌊v⌋₊ ≤ steps := by
    rw [div_le_iff₀ step_pos, mul_comm]
    exact_mod_cast le
  have rounded := halfEven_mono (by positivity) le_steps
  rw [halfEven_natCast] at rounded
  rw [nearest, Nat.mul_comm]
  exact Nat.mul_le_mul_left _ rounded

/-- The powers of two that enclose the whole part of a number. -/
theorem lt_pow_log2_floor (v : ℝ) : v < (2 ^ (⌊v⌋₊.log2 + 1) : ℕ) := by
  have below : ⌊v⌋₊ + 1 ≤ 2 ^ (⌊v⌋₊.log2 + 1) := Nat.lt_log2_self
  calc v < ⌊v⌋₊ + 1 := Nat.lt_floor_add_one v
    _ ≤ (2 ^ (⌊v⌋₊.log2 + 1) : ℕ) := by exact_mod_cast below

theorem nearest_of_onGrid (grid : OnGrid units) : nearest units = units := by
  have same : spacing ⌊(units : ℝ)⌋₊ ∣ units := by rwa [Nat.floor_natCast]
  exact le_antisymm (nearest_le_of_dvd (by positivity) same le_rfl) (le_nearest_of_dvd same le_rfl)

@[simp] theorem nearest_zero : nearest 0 = 0 := by simpa using nearest_of_onGrid (dvd_zero (spacing 0))

/-- Where the spacing grows there is a power of two in between, so no two numbers change their order. -/
theorem nearest_mono (nonneg : 0 ≤ u) (le : u ≤ v) : nearest u ≤ nearest v := by
  have floor_le : ⌊u⌋₊ ≤ ⌊v⌋₊ := Nat.floor_le_floor le
  have log_le : ⌊u⌋₊.log2 ≤ ⌊v⌋₊.log2 := by
    rw [Nat.log2_eq_log_two, Nat.log2_eq_log_two]
    exact Nat.log_mono_right floor_le
  rcases log_le.eq_or_lt with same | fewer
  · have step : spacing ⌊u⌋₊ = spacing ⌊v⌋₊ := by rw [spacing_eq, spacing_eq, same]
    rw [nearest, nearest, step]
    refine Nat.mul_le_mul_right _ (halfEven_mono (by positivity) ?_)
    gcongr
  · have nonzero : ⌊v⌋₊ ≠ 0 := by
      rintro zero
      rw [zero] at fewer
      exact Nat.not_lt_zero _ fewer
    have between : ((2 ^ ⌊v⌋₊.log2 : ℕ) : ℝ) ≤ v := by
      have self_le : ((2 ^ ⌊v⌋₊.log2 : ℕ) : ℝ) ≤ ⌊v⌋₊ := by exact_mod_cast Nat.log2_self_le nonzero
      exact self_le.trans (Nat.floor_le (nonneg.trans le))
    have under : u ≤ (2 ^ ⌊v⌋₊.log2 : ℕ) := by
      have power_le : ((2 ^ (⌊u⌋₊.log2 + 1) : ℕ) : ℝ) ≤ (2 ^ ⌊v⌋₊.log2 : ℕ) := by
        exact_mod_cast Nat.pow_le_pow_right (by decide) fewer
      exact (lt_pow_log2_floor u).le.trans power_le
    calc nearest u ≤ 2 ^ ⌊v⌋₊.log2 := nearest_le_of_dvd nonneg (spacing_dvd_pow (by omega)) under
      _ ≤ nearest v := le_nearest_of_dvd (spacing_dvd_pow (by omega)) between

theorem onGrid_nearest (nonneg : 0 ≤ v) : OnGrid (nearest v) := by
  have power_dvd : spacing ⌊v⌋₊ ∣ 2 ^ (⌊v⌋₊.log2 + 1) := spacing_dvd_pow (by omega)
  have le_power : nearest v ≤ 2 ^ (⌊v⌋₊.log2 + 1) := nearest_le_of_dvd nonneg power_dvd (lt_pow_log2_floor v).le
  rcases le_power.eq_or_lt with top | below
  · rw [top]
    exact onGrid_pow _
  · have log_le : (nearest v).log2 ≤ ⌊v⌋₊.log2 := Nat.lt_succ_iff.mp (log2_lt_of_lt (Nat.succ_pos _) below)
    exact (spacing_dvd_spacing log_le).trans (dvd_nearest_of_dvd dvd_rfl)

/-- Steps of one size are as near to a number as they are near to it in steps. -/
private theorem abs_sub_steps (v : ℝ) {step : ℕ} (positive : 0 < step) (count : ℕ) :
    |v - (count * step : ℕ)| = |v / step - count| * step := by
  have step_pos : (0 : ℝ) < step := by exact_mod_cast positive
  have scaled : v - (count * step : ℕ) = (v / step - count) * step := by
    push_cast
    field_simp
  rw [scaled, abs_mul, abs_of_pos step_pos]

private theorem abs_sub_nearest_le_steps (nonneg : 0 ≤ v) (steps : ℕ) :
    |v - nearest v| ≤ |v - (steps * spacing ⌊v⌋₊ : ℕ)| := by
  rw [nearest, abs_sub_steps v (spacing_pos _), abs_sub_steps v (spacing_pos _)]
  exact mul_le_mul_of_nonneg_right (abs_sub_halfEven_le (by positivity) steps) (Nat.cast_nonneg _)

/-- Between a number and a magnitude that is no multiple of the spacing there stands a power of two. -/
private theorem exists_steps_between (nonneg : 0 ≤ v) (grid : OnGrid units) (off : ¬ spacing ⌊v⌋₊ ∣ units) :
    ∃ steps : ℕ, (units : ℝ) < (steps * spacing ⌊v⌋₊ : ℕ) ∧ ((steps * spacing ⌊v⌋₊ : ℕ) : ℝ) ≤ v := by
  have fewer : units.log2 < ⌊v⌋₊.log2 := by
    by_contra more
    exact off ((spacing_dvd_spacing (not_lt.mp more)).trans grid)
  have nonzero : ⌊v⌋₊ ≠ 0 := by
    rintro zero
    rw [zero, Nat.log2_zero] at fewer
    exact Nat.not_lt_zero _ fewer
  obtain ⟨steps, power⟩ : spacing ⌊v⌋₊ ∣ 2 ^ ⌊v⌋₊.log2 := spacing_dvd_pow (by omega)
  refine ⟨steps, ?_, ?_⟩
  · rw [Nat.mul_comm, ← power]
    exact_mod_cast Nat.lt_log2_self.trans_le (Nat.pow_le_pow_right (by decide) fewer)
  · have self_le : ((2 ^ ⌊v⌋₊.log2 : ℕ) : ℝ) ≤ ⌊v⌋₊ := by exact_mod_cast Nat.log2_self_le nonzero
    rw [Nat.mul_comm, ← power]
    exact self_le.trans (Nat.floor_le nonneg)

/-- No magnitude that a double may have is nearer to a number. -/
theorem abs_sub_nearest_le (nonneg : 0 ≤ v) (grid : OnGrid units) : |v - nearest v| ≤ |v - units| := by
  by_cases on : spacing ⌊v⌋₊ ∣ units
  · obtain ⟨steps, rfl⟩ := on
    rw [Nat.mul_comm]
    exact abs_sub_nearest_le_steps nonneg steps
  · obtain ⟨steps, above, below⟩ := exists_steps_between nonneg grid on
    refine (abs_sub_nearest_le_steps nonneg steps).trans ?_
    rw [abs_of_nonneg (sub_nonneg.mpr below), abs_of_nonneg (by linarith)]
    linarith

/-- Where another magnitude is as near, the one with an even last place is taken. -/
theorem even_nearest (nonneg : 0 ≤ v) (grid : OnGrid units) (other : units ≠ nearest v)
    (near : |v - units| ≤ |v - nearest v|) : Even (nearest v / spacing ⌊v⌋₊) := by
  have step_pos : (0 : ℝ) < spacing ⌊v⌋₊ := by exact_mod_cast spacing_pos _
  by_cases on : spacing ⌊v⌋₊ ∣ units
  · obtain ⟨steps, rfl⟩ := on
    rw [Nat.mul_comm, nearest, abs_sub_steps v (spacing_pos _), abs_sub_steps v (spacing_pos _),
      mul_le_mul_iff_of_pos_right step_pos] at near
    rw [nearest, Nat.mul_div_cancel _ (spacing_pos _)]
    refine even_halfEven (by positivity) (fun same => other ?_) near
    rw [nearest, ← same, Nat.mul_comm]
  · -- The power of two in between would be nearer.
    obtain ⟨steps, above, below⟩ := exists_steps_between nonneg grid on
    have nearer := abs_sub_nearest_le_steps nonneg steps
    rw [abs_of_nonneg (sub_nonneg.mpr below)] at nearer
    rw [abs_of_nonneg (show 0 ≤ v - units by linarith)] at near
    linarith

/-- Rounding goes to a coarser grid, so it keeps multiples of a power of two. -/
theorem pow_dvd_nearest {power : ℕ} (dvd : 2 ^ power ∣ units) : 2 ^ power ∣ nearest units := by
  rcases le_total (⌊(units : ℝ)⌋₊.log2 - 52) power with fine | coarse
  · have grid : OnGrid units := by
      rw [Nat.floor_natCast] at fine
      exact (spacing_dvd_pow fine).trans dvd
    rwa [nearest_of_onGrid grid]
  · refine dvd_nearest_of_dvd ?_
    rw [spacing_eq]
    exact Nat.pow_dvd_pow 2 coarse

/-- What is less than half of the spacing above a power of two does not lift it. -/
theorem nearest_pow_add {power : ℕ} {rest : ℝ} (nonneg : 0 ≤ rest) (small : rest < (2 ^ power : ℕ)) :
    nearest ((2 ^ (power + 53) : ℕ) + rest) = 2 ^ (power + 53) := by
  have room : rest < (2 ^ (power + 53) : ℕ) := by
    refine small.trans_le ?_
    exact_mod_cast Nat.pow_le_pow_right (by decide) (by omega)
  have below : ((2 ^ (power + 53) : ℕ) : ℝ) + rest < (2 ^ (power + 53 + 1) : ℕ) := by
    rw [pow_succ 2 (power + 53)]
    push_cast at room ⊢
    linarith
  have step : spacing ⌊((2 ^ (power + 53) : ℕ) : ℝ) + rest⌋₊ = 2 ^ (power + 1) := by
    rw [spacing_floor (by linarith) below]
    rfl
  have steps : (((2 ^ (power + 53) : ℕ) : ℝ) + rest) / (2 ^ (power + 1) : ℕ) =
      (2 ^ 52 : ℕ) + rest / (2 ^ (power + 1) : ℕ) := by
    have split : (2 ^ (power + 53) : ℝ) = 2 ^ 52 * 2 ^ (power + 1) := by ring
    push_cast
    rw [split]
    field_simp
    ring
  have half : 2 * (rest / (2 ^ (power + 1) : ℕ)) < 1 := by
    push_cast at small ⊢
    rw [← mul_div_assoc, div_lt_one (by positivity), pow_succ]
    linarith
  have rest_nonneg : 0 ≤ rest / (2 ^ (power + 1) : ℕ) := by positivity
  rw [nearest, step, steps, halfEven_add rest_nonneg (by linarith), if_pos half, ← Nat.pow_add]
  congr 1
  omega

end Nearest

end HoldoutLine.Binary64
