import HoldoutLine.Proofs.Binary64.Reals
import HoldoutLine.Proofs.Json.Numbers

/-! # Numbers with fixed places

What a report shows of a number: `ShowsFixed places` asks for the sign, the digits of the whole part without needless
zeros, a point and exactly `places` digits behind it. Together the digits are the count of last places nearest to the
magnitude, an exact half going to the even count. `showsFixed_fixedText` says that `fixedText` writes this for every
double, and `ShowsFixed.within` that what is shown is off by half of the last place at most.
-/

namespace HoldoutLine

open Binary64 Numeral

/-- A text shows a number with a fixed number of decimal places. -/
inductive ShowsFixed (places : ℕ) : List Char → Float → Prop where
  | notANumber {x : Float} (nan : ofFloat x = .notANumber) : ShowsFixed places ['N', 'a', 'N'] x
  | infinite {x : Float} {negative : Bool} (endless : ofFloat x = .infinite negative) :
      ShowsFixed places (signText negative ++ ['i', 'n', 'f']) x
  /-- A negative number keeps its sign even if only zeros are shown of it. -/
  | finite {x : Float} {negative : Bool} {units : ℕ} {whole fraction : List Char}
      (exact : ofFloat x = .finite negative units) (left : Json.IsWhole whole) (right : IsDigits fraction)
      (length : fraction.length = places)
      (rounded : Nat.ofDigitChars 10 (whole ++ fraction) 0 = halfEven (units * unit * 10 ^ places)) :
      ShowsFixed places (signText negative ++ (whole ++ if places = 0 then [] else '.' :: fraction)) x

section Digits

variable {places units count : ℕ}

/-- Zeros are put in front until there is a digit before the point. -/
def paddedDigits (places count : ℕ) : List Char :=
  Decimal.zeros (places + 1 - (Nat.toDigits 10 count).length) ++ Nat.toDigits 10 count

private theorem length_paddedDigits (places count : ℕ) :
    (paddedDigits places count).length = max (places + 1) (Nat.toDigits 10 count).length := by
  rw [paddedDigits, List.length_append, Decimal.zeros, List.length_replicate]
  omega

private theorem isDigits_paddedDigits (places count : ℕ) : IsDigits (paddedDigits places count) :=
  Json.isDigits_append (Json.isDigits_zeros _) (Json.isDigits_toDigits count)

private theorem ofDigitChars_paddedDigits (places count : ℕ) :
    Nat.ofDigitChars 10 (paddedDigits places count) 0 = count := by
  rw [← ofDigits_eq, paddedDigits, Json.ofDigits_zeros_append, Json.ofDigits_toDigits]

/-- No zero stands before the point that is not needed there. -/
theorem isWhole_paddedDigits (places count : ℕ) :
    Json.IsWhole ((paddedDigits places count).take ((paddedDigits places count).length - places)) := by
  have length := length_paddedDigits places count
  have numbered : IsDigits ((paddedDigits places count).take ((paddedDigits places count).length - places)) :=
    fun c member => isDigits_paddedDigits places count c (List.mem_of_mem_take member)
  have some : (paddedDigits places count).take ((paddedDigits places count).length - places) ≠ [] := by
    rw [← List.length_pos_iff, List.length_take]
    omega
  refine ⟨some, numbered, fun zero => ?_⟩
  rw [List.length_take]
  rcases Nat.lt_or_ge places (Nat.toDigits 10 count).length with many | few
  · -- Nothing is put in front, so the zero is the number.
    have bare : paddedDigits places count = Nat.toDigits 10 count := by
      rw [paddedDigits, Nat.sub_eq_zero_of_le many]
      rfl
    rw [bare, List.head?_take, if_neg (by omega)] at zero
    obtain rfl : count = 0 := Nat.eq_zero_of_not_pos fun positive => Json.head_toDigits positive zero
    have single : (Nat.toDigits 10 0).length = 1 := rfl
    omega
  · omega

/-- The library counts the last places of a magnitude. -/
theorem roundHalfEven_places (places units : ℕ) :
    roundHalfEven (units * Nat.pow 10 places) unitsPerOne = halfEven (units * unit * 10 ^ places) := by
  have positive : 0 < unitsPerOne := by
    rw [unitsPerOne, Nat.one_shiftLeft]
    exact Nat.two_pow_pos 1074
  have same : ((units * Nat.pow 10 places : ℕ) : ℝ) / unitsPerOne = units * unit * 10 ^ places := by
    rw [unit, Nat.pow_eq]
    push_cast
    ring
  rw [roundHalfEven_eq_halfEven _ positive, same]

private theorem fixedChars_eq (places units : ℕ) :
    fixedChars places units =
      let digits := paddedDigits places (roundHalfEven (units * Nat.pow 10 places) unitsPerOne)
      digits.take (digits.length - places) ++
        if places = 0 then [] else '.' :: digits.drop (digits.length - places) := rfl

end Digits

/-- A number with fixed places shows the count of last places that is nearest to it. -/
theorem showsFixed_fixedText (places : ℕ) (x : Float) : ShowsFixed places (fixedText places x).toList x := by
  rw [fixedText]
  cases read : ofFloat x with
  | notANumber =>
    dsimp only
    rw [String.toList_ofList]
    exact .notANumber read
  | infinite negative =>
    dsimp only
    rw [String.toList_ofList]
    exact .infinite read
  | finite negative units =>
    dsimp only
    rw [String.toList_ofList, fixedChars_eq, roundHalfEven_places]
    refine .finite read (isWhole_paddedDigits places _) ?_ ?_ ?_
    · exact fun c member => isDigits_paddedDigits places _ c (List.mem_of_mem_drop member)
    · have length := length_paddedDigits places (halfEven (units * unit * 10 ^ places))
      rw [List.length_drop]
      omega
    · rw [List.take_append_drop, ofDigitChars_paddedDigits]

example : [fixedText 2 0.125, fixedText 0 3.5, fixedText 2 (-0.001)] = ["0.12", "4", "-0.00"] := by decide +kernel

/-- What is shown of a finite number is off by half of the last place at most. -/
theorem ShowsFixed.within {places : ℕ} {text : List Char} {x : Float} (shows : ShowsFixed places text x)
    (finite : x.isFinite = true) : ∃ (negative : Bool) (whole fraction : List Char),
      text = signText negative ++ (whole ++ if places = 0 then [] else '.' :: fraction) ∧ fraction.length = places ∧
        2 * |(|real x| * 10 ^ places - Nat.ofDigitChars 10 (whole ++ fraction) 0)| ≤ 1 := by
  obtain ⟨negative, units, read⟩ := (isFinite_iff x).mp finite
  cases shows with
  | notANumber nan => exact absurd (read.symm.trans nan) nofun
  | infinite endless => exact absurd (read.symm.trans endless) nofun
  | @finite x _ units whole fraction exact _ _ length rounded =>
    have unit_nonneg := unit_pos.le
    refine ⟨_, whole, fraction, rfl, length, ?_⟩
    rw [abs_real_of_finite exact, rounded]
    exact two_mul_abs_sub_halfEven_le (by positivity)

end HoldoutLine
