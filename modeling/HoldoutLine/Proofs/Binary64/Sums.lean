import HoldoutLine.Proofs.Binary64.Arithmetic

/-! # Bounds that survive rounding

Doubles within a power of two keep within powers of two under arithmetic, as long as the powers are in the range: a
sum of a million millions of them costs forty powers. Multiples of a power of two stay multiples, so what is not zero
is no smaller than the power. Sums of numbers that are not negative never fall below a summand, and stop to grow once
the summands are too small to count: they cannot overflow, however many they are.
-/

namespace HoldoutLine.Binary64

section Within

variable {x y : Float} {v : ℝ} {j k : ℤ}

/-- A finite double of a magnitude up to a power of two. -/
structure Within (power : ℤ) (x : Float) : Prop where
  finite : x.isFinite = true
  bound : |real x| ≤ 2 ^ power

theorem Within.mono (within : Within j x) (le : j ≤ k) : Within k x :=
  ⟨within.1, within.2.trans (zpow_le_zpow_right₀ one_le_two le)⟩

theorem zpow_lt_limit (room : k < 1024) : (2 : ℝ) ^ k < 2 ^ (1024 : ℤ) := zpow_lt_zpow_right₀ one_lt_two room

theorem IsNearest.within (near : IsNearest x v) (le : |v| ≤ 2 ^ k) (least : -1074 ≤ k) (room : k < 1024) :
    Within k x := by
  obtain ⟨finite, bound⟩ := near.isFinite_of_le (onLine_zpow least) (zpow_lt_limit room) le
  exact ⟨finite, bound⟩

theorem double_zpow (k : ℤ) : (2 : ℝ) ^ (k + 1) = 2 ^ k + 2 ^ k := by
  rw [zpow_add_one₀ two_ne_zero, mul_two]

theorem Within.add (left : Within k x) (right : Within k y) (least : -1074 ≤ k) (room : k + 1 < 1024) :
    Within (k + 1) (x + y) := by
  refine (isNearest_add left.1 right.1).within ?_ (by omega) room
  rw [double_zpow]
  exact (abs_add_le _ _).trans (add_le_add left.2 right.2)

theorem Within.sub (left : Within k x) (right : Within k y) (least : -1074 ≤ k) (room : k + 1 < 1024) :
    Within (k + 1) (x - y) := by
  refine (isNearest_sub left.1 right.1).within ?_ (by omega) room
  rw [double_zpow]
  exact (abs_sub _ _).trans (add_le_add left.2 right.2)

theorem Within.mul (left : Within j x) (right : Within k y) (least : -1074 ≤ j + k) (room : j + k < 1024) :
    Within (j + k) (x * y) := by
  refine (isNearest_mul left.1 right.1).within ?_ least room
  rw [abs_mul, zpow_add₀ two_ne_zero]
  exact mul_le_mul left.2 right.2 (abs_nonneg _) (by positivity)

/-- A divisor is bounded from below. -/
theorem Within.div (left : Within j x) (finite : y.isFinite = true) (above : 2 ^ k ≤ |real y|) (least : -1074 ≤ j - k)
    (room : j - k < 1024) : Within (j - k) (x / y) := by
  have divisor_pos : 0 < |real y| := lt_of_lt_of_le (by positivity) above
  refine (isNearest_div left.1 finite (abs_pos.mp divisor_pos)).within ?_ least room
  rw [abs_div, zpow_sub₀ two_ne_zero]
  exact div_le_div₀ (by positivity) left.2 (by positivity) above

private theorem limit_eq_square : (2 : ℝ) ^ (1024 : ℤ) = 2 ^ (512 : ℤ) * 2 ^ (512 : ℤ) := by
  rw [← zpow_add₀ two_ne_zero]
  rfl

/-- Roots have half of the exponents. -/
theorem within_sqrt (finite : x.isFinite = true) (nonneg : 0 ≤ real x) : Within 512 x.sqrt := by
  refine (isNearest_sqrt finite nonneg).within ?_ (by norm_num) (by norm_num)
  rw [abs_of_nonneg (Real.sqrt_nonneg _), Real.sqrt_le_left (by positivity), pow_two, ← limit_eq_square]
  exact ((le_abs_self _).trans_lt (abs_real_lt finite)).le

/-- A double with a finite square is small enough for one. -/
theorem abs_lt_of_isFinite_mul_self (finite : (x * x).isFinite = true) :
    x.isFinite = true ∧ |real x| < 2 ^ (512 : ℤ) := by
  obtain ⟨factor, -⟩ := isFinite_of_mul finite
  refine ⟨factor, ?_⟩
  by_contra large
  have square : (2 : ℝ) ^ (1024 : ℤ) ≤ real x * real x := by
    rw [limit_eq_square, ← abs_mul_abs_self (real x)]
    exact mul_self_le_mul_self (by positivity) (not_lt.mp large)
  have rounds := le_rounded (onLine_zpow (by norm_num)) square
  exact ((isNearest_mul factor factor).isFinite_iff.mp finite).not_ge (rounds.trans (le_abs_self _))

end Within

section Multiples

variable {x y : Float} {u v : ℝ} {power : ℤ}

inductive IsMultiple (power : ℤ) (v : ℝ) : Prop where
  | intro (times : ℤ) (eq : v = times * 2 ^ power)

theorem isMultiple_zero (power : ℤ) : IsMultiple power 0 := ⟨0, by simp⟩

theorem IsMultiple.add (left : IsMultiple power u) (right : IsMultiple power v) : IsMultiple power (u + v) := by
  obtain ⟨m, rfl⟩ := left
  obtain ⟨n, rfl⟩ := right
  exact ⟨m + n, by rw [Int.cast_add, add_mul]⟩

theorem IsMultiple.neg (multiple : IsMultiple power v) : IsMultiple power (-v) := by
  obtain ⟨n, rfl⟩ := multiple
  exact ⟨-n, by rw [Int.cast_neg, neg_mul]⟩

theorem IsMultiple.sub (left : IsMultiple power u) (right : IsMultiple power v) : IsMultiple power (u - v) :=
  sub_eq_add_neg u v ▸ left.add right.neg

theorem IsMultiple.mono {lower : ℤ} (multiple : IsMultiple power v) (le : lower ≤ power) : IsMultiple lower v := by
  obtain ⟨n, rfl⟩ := multiple
  refine ⟨n * 2 ^ (power - lower).toNat, ?_⟩
  rw [Int.cast_mul, Int.cast_pow, Int.cast_ofNat, pow_toNat (by omega), mul_assoc, ← zpow_add₀ two_ne_zero,
    sub_add_cancel]

/-- A multiple is zero, or no smaller than the power. -/
theorem IsMultiple.le_abs (multiple : IsMultiple power v) (nonzero : v ≠ 0) : 2 ^ power ≤ |v| := by
  obtain ⟨n, rfl⟩ := multiple
  have whole : (1 : ℝ) ≤ |(n : ℝ)| := by
    have nonzero' : n ≠ 0 := by
      rintro rfl
      simp at nonzero
    exact_mod_cast Int.one_le_abs nonzero'
  have positive : (0 : ℝ) < 2 ^ power := by positivity
  rw [abs_mul, abs_of_pos positive]
  exact le_mul_of_one_le_left positive.le whole

/-- Units in powers of two. -/
theorem mul_shift_mul_unit (times shift : ℕ) :
    ((times * 2 ^ shift : ℕ) : ℝ) * unit = times * 2 ^ ((shift : ℤ) - 1074) := by
  have scaled := shift_mul_unit shift
  rw [Nat.one_shiftLeft] at scaled
  rw [Nat.cast_mul, mul_assoc, scaled]

/-- Rounding keeps multiples of a power of two that is no finer than the units. -/
theorem IsMultiple.rounded (multiple : IsMultiple power v) (least : -1074 ≤ power) :
    IsMultiple power (rounded v) := by
  obtain ⟨shift, rfl⟩ : ∃ shift : ℕ, power = shift - 1074 := ⟨(power + 1074).toNat, by omega⟩
  have of_nonneg : ∀ times : ℕ, IsMultiple (shift - 1074) (Binary64.rounded (times * 2 ^ ((shift : ℤ) - 1074))) := by
    intro times
    obtain ⟨steps, rounded⟩ : 2 ^ shift ∣ nearest (times * 2 ^ shift : ℕ) := pow_dvd_nearest (Nat.dvd_mul_left _ _)
    rw [← mul_shift_mul_unit, rounded_of_nonneg (mul_nonneg (Nat.cast_nonneg _) unit_pos.le),
      mul_div_cancel_right₀ _ unit_pos.ne', rounded, Nat.mul_comm, mul_shift_mul_unit]
    exact ⟨steps, by rw [Int.cast_natCast]⟩
  obtain ⟨n, rfl⟩ := multiple
  obtain ⟨times, rfl | rfl⟩ := Int.eq_nat_or_neg n
  · exact of_nonneg times
  · rw [Int.cast_neg, neg_mul, rounded_neg]
    exact (of_nonneg times).neg

/-- Units that a power of two divides. -/
theorem isMultiple_of_dvd {negative : Bool} {units shift : ℕ} (parts : ofFloat x = .finite negative units)
    (dvd : 2 ^ shift ∣ units) : IsMultiple (shift - 1074) (real x) := by
  obtain ⟨times, rfl⟩ := dvd
  have multiple : IsMultiple (shift - 1074) (((2 ^ shift * times : ℕ) : ℝ) * unit) := by
    refine ⟨times, ?_⟩
    rw [Nat.mul_comm, mul_shift_mul_unit, Int.cast_natCast]
  rw [real_of_finite parts]
  cases negative
  · rwa [if_neg Bool.false_ne_true, one_mul]
  · rw [if_pos rfl, neg_one_mul]
    exact multiple.neg

/-- A double that is no smaller than a power of two is a multiple of its last place there. -/
theorem isMultiple_of_le (finite : x.isFinite = true) (least : -1022 ≤ power) (le : 2 ^ power ≤ |real x|) :
    IsMultiple (power - 52) (real x) := by
  obtain ⟨negative, units, parts⟩ := (isFinite_iff x).mp finite
  obtain ⟨shift, rfl⟩ : ∃ shift : ℕ, power = shift + 52 - 1074 := ⟨(power + 1022).toNat, by omega⟩
  have many : 2 ^ (shift + 52) ≤ units := by
    have scaled := mul_shift_mul_unit 1 (shift + 52)
    rw [one_mul, Nat.cast_one, one_mul] at scaled
    rw [abs_real_of_finite parts, ← Nat.cast_ofNat (n := 52), ← Nat.cast_add, ← scaled,
      mul_le_mul_iff_left₀ unit_pos] at le
    exact_mod_cast le
  have dvd : 2 ^ shift ∣ units := by
    have bits : shift + 52 ≤ units.log2 := (Nat.le_log2 ((Nat.two_pow_pos _).trans_le many).ne').mpr many
    have grid := (units_of_finite parts).1
    rw [OnGrid, spacing_eq] at grid
    exact (Nat.pow_dvd_pow 2 (by omega)).trans grid
  have same : (shift : ℤ) + 52 - 1074 - 52 = shift - 1074 := by ring
  exact same ▸ isMultiple_of_dvd parts dvd

end Multiples

section Totals

private theorem ofFloat_negZero : ofFloat (-0.0) = .finite true 0 := by decide +kernel

@[simp] theorem real_negZero : real (-0.0) = 0 := by
  rw [real_of_finite ofFloat_negZero, Nat.cast_zero, zero_mul, mul_zero]

theorem isFinite_negZero : (-0.0 : Float).isFinite = true := (isFinite_iff _).mpr ⟨_, _, ofFloat_negZero⟩

private theorem ofFloat_zero : ofFloat 0.0 = .finite false 0 := by decide +kernel

@[simp] theorem real_zero : real 0.0 = 0 := by
  rw [real_of_finite ofFloat_zero, Nat.cast_zero, zero_mul, mul_zero]

theorem isFinite_zero : (0.0 : Float).isFinite = true := (isFinite_iff _).mpr ⟨_, _, ofFloat_zero⟩

variable {start : Float} {xs : List Float} {k : ℤ}

def total (start : Float) (xs : List Float) : Float := xs.foldl (· + ·) start

/-- A finite total had a finite start and finite summands. -/
theorem isFinite_of_total (finite : (total start xs).isFinite = true) :
    start.isFinite = true ∧ ∀ x ∈ xs, x.isFinite = true := by
  induction xs generalizing start with
  | nil => exact ⟨finite, nofun⟩
  | cons x xs ih =>
    obtain ⟨sum, rest⟩ := ih finite
    obtain ⟨first, second⟩ := isFinite_of_add sum
    exact ⟨first, List.forall_mem_cons.mpr ⟨second, rest⟩⟩

/-- What the start has and every finite addition keeps, a finite total has. -/
theorem total_induction {motive : Float → Prop} (finite : (total start xs).isFinite = true) (base : motive start)
    (step : ∀ s, ∀ x ∈ xs, s.isFinite = true → x.isFinite = true → (s + x).isFinite = true → motive s →
      motive (s + x)) : motive (total start xs) := by
  induction xs generalizing start with
  | nil => exact base
  | cons x xs ih =>
    obtain ⟨sum, -⟩ := @isFinite_of_total (start + x) xs finite
    obtain ⟨first, second⟩ := isFinite_of_add sum
    exact ih finite (step start x List.mem_cons_self first second sum base)
      fun s y member => step s y (List.mem_cons_of_mem x member)

/-- A total of doubles within a power of two is within their number times the power, as far as counts go. -/
theorem total_within (base : start.isFinite = true) (zero : real start = 0) (within : ∀ x ∈ xs, Within k x)
    (few : xs.length ≤ 2 ^ 40) (least : -1074 ≤ k) (room : k + 40 < 1024) :
    (total start xs).isFinite = true ∧ |real (total start xs)| ≤ xs.length * 2 ^ k := by
  -- After some additions the bound is their number times the power, which is a double.
  have running : ∀ (ys : List Float) (s : Float) (done : ℕ), (∀ x ∈ ys, Within k x) → done + ys.length ≤ 2 ^ 40 →
      s.isFinite = true → |real s| ≤ done * 2 ^ k →
      (total s ys).isFinite = true ∧ |real (total s ys)| ≤ (done + ys.length : ℕ) * 2 ^ k := by
    intro ys
    induction ys with
    | nil => exact fun s done _ _ finite bound => ⟨finite, bound⟩
    | cons y ys ih =>
      intro s done within few finite bound
      obtain ⟨first, rest⟩ := List.forall_mem_cons.mp within
      rw [List.length_cons] at few ⊢
      have line : OnLine ((done + 1 : ℕ) * 2 ^ k) := onLine_mul_zpow (by omega) least
      have counted : ((done + 1 : ℕ) : ℝ) * 2 ^ k < 2 ^ (1024 : ℤ) := by
        have count : ((done + 1 : ℕ) : ℝ) ≤ 2 ^ (40 : ℤ) := by exact_mod_cast (by omega : done + 1 ≤ 2 ^ 40)
        calc ((done + 1 : ℕ) : ℝ) * 2 ^ k ≤ 2 ^ (40 : ℤ) * 2 ^ k := mul_le_mul_of_nonneg_right count (by positivity)
          _ = 2 ^ (k + 40) := by rw [← zpow_add₀ two_ne_zero, add_comm]
          _ < 2 ^ (1024 : ℤ) := zpow_lt_limit room
      have sum_le : |real s + real y| ≤ (done + 1 : ℕ) * 2 ^ k := by
        rw [Nat.cast_add_one, add_one_mul]
        exact (abs_add_le _ _).trans (add_le_add bound first.2)
      obtain ⟨finiteSum, boundSum⟩ := (isNearest_add finite first.1).isFinite_of_le line counted sum_le
      obtain ⟨finiteTotal, boundTotal⟩ := ih (s + y) (done + 1) rest (by omega) finiteSum boundSum
      have same : done + (ys.length + 1) = done + 1 + ys.length := by omega
      rw [same]
      exact ⟨finiteTotal, boundTotal⟩
  have all := running xs start 0 within (by omega) base (by rw [zero]; simp)
  rwa [Nat.zero_add] at all

theorem within_one : Within 0 1.0 := by
  refine ⟨isFinite_one, ?_⟩
  rw [real_one, abs_one, zpow_zero]

/-- A million millions cost forty powers. -/
theorem within_total (base : start.isFinite = true) (zero : real start = 0) (within : ∀ x ∈ xs, Within k x)
    (few : xs.length ≤ 2 ^ 40) (least : -1074 ≤ k) (room : k + 40 < 1024) : Within (k + 40) (total start xs) := by
  obtain ⟨finite, bound⟩ := total_within base zero within few least room
  have count : (xs.length : ℝ) ≤ 2 ^ (40 : ℤ) := by exact_mod_cast few
  refine ⟨finite, bound.trans ?_⟩
  rw [add_comm, zpow_add₀ two_ne_zero]
  exact mul_le_mul_of_nonneg_right count (by positivity)

theorem isMultiple_total (finite : (total start xs).isFinite = true) (base : IsMultiple k (real start))
    (multiples : ∀ x ∈ xs, IsMultiple k (real x)) (least : -1074 ≤ k) : IsMultiple k (real (total start xs)) := by
  refine @total_induction start xs (fun s => IsMultiple k (real s)) finite base ?_
  intro s x member finiteS finiteX finiteSum multiple
  rw [(isNearest_add finiteS finiteX).real_eq finiteSum]
  exact (multiple.add (multiples x member)).rounded least

/-- A total of zeros is zero. -/
theorem real_total_eq_zero (finite : (total start xs).isFinite = true) (base : real start = 0)
    (zeros : ∀ x ∈ xs, real x = 0) : real (total start xs) = 0 := by
  refine @total_induction start xs (fun s => real s = 0) finite base ?_
  intro s x member finiteS finiteX finiteSum zero
  rw [(isNearest_add finiteS finiteX).real_eq finiteSum, zero, zeros x member, add_zero, rounded_zero]

private theorem start_le_total (finite : (total start xs).isFinite = true) (nonneg : ∀ x ∈ xs, 0 ≤ real x) :
    real start ≤ real (total start xs) := by
  refine @total_induction start xs (fun s => real start ≤ real s) finite le_rfl ?_
  intro s x member finiteS finiteX finiteSum le
  refine (isNearest_add finiteS finiteX).le_real finiteSum (onLine_real (isFinite_of_total finite).1) ?_
  linarith [nonneg x member]

/-- No summand exceeds the total of numbers that are not negative. -/
theorem le_total (finite : (total start xs).isFinite = true) (base : 0 ≤ real start) (nonneg : ∀ x ∈ xs, 0 ≤ real x) :
    ∀ x ∈ xs, real x ≤ real (total start xs) := by
  induction xs generalizing start with
  | nil => exact nofun
  | cons y ys ih =>
    obtain ⟨first, rest⟩ := List.forall_mem_cons.mp nonneg
    obtain ⟨finiteSum, -⟩ := @isFinite_of_total (start + y) ys finite
    obtain ⟨finiteStart, finiteY⟩ := isFinite_of_add finiteSum
    have near := isNearest_add finiteStart finiteY
    have sum_nonneg : 0 ≤ real (start + y) := by
      rw [near.real_eq finiteSum]
      exact rounded_nonneg (add_nonneg base first)
    refine List.forall_mem_cons.mpr ⟨?_, ih finite sum_nonneg rest⟩
    calc real y ≤ real (start + y) := near.le_real finiteSum (onLine_real finiteY) (by linarith)
      _ ≤ real (total (start + y) ys) := start_le_total finite rest

/-- What is less than half of the last place above a power of two does not lift it. -/
theorem rounded_zpow_add {v : ℝ} (least : -1074 ≤ k) (nonneg : 0 ≤ v) (small : v < 2 ^ k) :
    rounded (2 ^ (k + 53) + v) = 2 ^ (k + 53) := by
  obtain ⟨power, rfl⟩ : ∃ power : ℕ, k = power - 1074 := ⟨(k + 1074).toNat, by omega⟩
  have split : (power : ℤ) - 1074 + 53 = (power + 53 : ℕ) - 1074 := by push_cast; ring
  have top := mul_shift_mul_unit 1 (power + 53)
  have bottom := mul_shift_mul_unit 1 power
  rw [one_mul, Nat.cast_one, one_mul] at top bottom
  rw [← bottom, ← div_lt_iff₀ unit_pos] at small
  have top_nonneg : 0 ≤ ((2 ^ (power + 53) : ℕ) : ℝ) * unit := mul_nonneg (Nat.cast_nonneg _) unit_pos.le
  have stalled := nearest_pow_add (div_nonneg nonneg unit_pos.le) small
  rw [split, ← top, rounded_of_nonneg (add_nonneg top_nonneg nonneg), add_div,
    mul_div_cancel_right₀ _ unit_pos.ne', stalled]

/-- Numbers that are not negative can be added without end if each is below a power of two that leaves fifty-three
bits above it. -/
theorem isFinite_total_of_lt (base : start.isFinite = true) (zero : real start = 0)
    (small : ∀ x ∈ xs, x.isFinite = true ∧ 0 ≤ real x ∧ real x < 2 ^ k) (least : -1074 ≤ k) (room : k + 53 < 1024) :
    (total start xs).isFinite = true := by
  -- The partial sums stay between zero and the power that none of the summands lifts.
  have running : ∀ (ys : List Float) (s : Float), (∀ x ∈ ys, x.isFinite = true ∧ 0 ≤ real x ∧ real x < 2 ^ k) →
      s.isFinite = true → 0 ≤ real s → real s ≤ 2 ^ (k + 53) → (total s ys).isFinite = true := by
    intro ys
    induction ys with
    | nil => exact fun s _ finite _ _ => finite
    | cons y ys ih =>
      intro s small finite nonneg below
      obtain ⟨⟨finiteY, nonnegY, smallY⟩, rest⟩ := List.forall_mem_cons.mp small
      have near := isNearest_add finite finiteY
      have stalled : rounded (real s + real y) ≤ 2 ^ (k + 53) := by
        rw [← rounded_zpow_add least nonnegY smallY]
        exact rounded_mono (by linarith)
      have sum_nonneg : 0 ≤ rounded (real s + real y) := rounded_nonneg (add_nonneg nonneg nonnegY)
      have finiteSum : (s + y).isFinite = true := by
        rw [near.isFinite_iff, abs_of_nonneg sum_nonneg]
        exact stalled.trans_lt (zpow_lt_limit room)
      rw [← near.real_eq finiteSum] at stalled sum_nonneg
      exact ih (s + y) rest finiteSum sum_nonneg stalled
  exact running xs start small base zero.ge (zero.le.trans (by positivity))

end Totals

end HoldoutLine.Binary64
