import HoldoutLine.Json.Printer
import HoldoutLine.Proofs.Binary64.Bits
import HoldoutLine.Proofs.Decimal.Shortest
import HoldoutLine.Proofs.Json.Grammar

/-! # Written numbers

However the digits of a decimal are laid out, they are a number in the grammar, and it is the same number
(`isNumber_text`). So a count is written as itself and a finite double as the number that is read as it, a zero with
its sign: `isNumber_count`, `isNumber_numberText`.
-/

namespace HoldoutLine.Json

open Numeral

section Digits

variable {digits : List Char} {n : ℕ}

theorem ofDigits_toDigits (n : ℕ) : ofDigits (Nat.toDigits 10 n) = n := by
  rw [ofDigits_eq, Nat.ofDigitChars_ten_toDigits]

/-- Zeros in front do not count. -/
theorem ofDigits_zeros_append (count : ℕ) (digits : List Char) :
    ofDigits (Decimal.zeros count ++ digits) = ofDigits digits := by
  rw [ofDigits_eq, ofDigits_eq, Decimal.zeros, Nat.ofDigitChars_append, Nat.ofDigitChars_replicate_zero, Nat.mul_zero]

private theorem ofDigits_append_zeros (digits : List Char) (count : ℕ) :
    ofDigits (digits ++ Decimal.zeros count) = ofDigits digits * 10 ^ count := by
  rw [ofDigits_eq, ofDigits_eq, Decimal.zeros, Nat.ofDigitChars_append, Nat.ofDigitChars_replicate_zero, Nat.mul_comm]

theorem isDigits_toDigits (n : ℕ) : IsDigits (Nat.toDigits 10 n) := fun _ member =>
  Nat.isDigit_of_mem_toDigits (by decide) (by decide) member

theorem isDigits_zeros (count : ℕ) : IsDigits (Decimal.zeros count) := fun c member => by
  rw [List.eq_of_mem_replicate member]
  rfl

theorem isDigits_append {other : List Char} (left : IsDigits digits) (right : IsDigits other) :
    IsDigits (digits ++ other) := fun c member => (List.mem_append.mp member).elim (left c) (right c)

/-- The digits of a positive number do not begin with a zero. -/
theorem head_toDigits (positive : 0 < n) : (Nat.toDigits 10 n).head? ≠ some '0' := by
  induction n using Nat.strong_induction_on with
  | _ n ih =>
    rw [Nat.toDigits_eq_if (by decide)]
    split_ifs with single
    · interval_cases n <;> decide
    · rw [List.head?_append_of_ne_nil _ Nat.toDigits_ne_nil]
      exact ih (n / 10) (by omega) (by omega)

private theorem isWhole_zero : IsWhole ['0'] := ⟨nofun, by simp [IsDigits], fun _ => rfl⟩

private theorem isWhole_of_head (some : digits ≠ []) (numbered : IsDigits digits)
    (plain : digits.head? ≠ .some '0') :
    IsWhole digits := ⟨some, numbered, fun zero => (plain zero).elim⟩

end Digits

section Layouts

variable {whole point fraction tail : List Char} {power : Option Int} {d : Decimal}

/-- The parts of a number write whatever decimal has the same value. -/
theorem isNumber_of_parts (negative : Bool) {significand : ℕ} {exponent : ℤ} (plain : IsWhole whole)
    (pointed : IsFraction point fraction) (powered : IsPower tail power) (marked : fraction ≠ [] ∨ power ≠ none)
    (same : decimal (ofDigits (whole ++ fraction)) (power.getD 0 - fraction.length) = decimal significand exponent) :
    IsNumber (Binary64.signText negative ++ (whole ++ (point ++ tail)))
      (.number (nearest negative significand exponent).toFloat) := by
  rw [← nearest_congr same]
  exact .double plain pointed powered (.inr marked)

/-- A sign written in front of a power of ten. -/
theorem isPower_scientific (power : ℤ) :
    IsPower ('e' :: ((if power < 0 then ['-'] else ['+']) ++ Nat.toDigits 10 power.natAbs)) (some power) := by
  have digits := IsPower.present (.inl rfl) (show IsSign (if power < 0 then ['-'] else ['+']) by
    split_ifs
    · exact .inr (.inr rfl)
    · exact .inr (.inl rfl)) Nat.toDigits_ne_nil (isDigits_toDigits power.natAbs)
  rw [ofDigits_toDigits] at digits
  convert digits using 2
  split_ifs <;> first | omega | contradiction

section Significand

variable {digits : List Char} (some : digits ≠ []) (numbered : IsDigits digits) (plain : digits.head? ≠ .some '0')

include some numbered plain

/-- The first digits are a whole number. -/
theorem isWhole_take {count : ℕ} (positive : count ≠ 0) : IsWhole (digits.take count) := by
  refine isWhole_of_head ?_ (fun c member => numbered c (List.mem_of_mem_take member)) ?_
  · rw [Ne, List.take_eq_nil_iff]
    exact not_or.mpr ⟨positive, some⟩
  · rwa [List.head?_take, if_neg positive]

/-- Digits with a point in front of them, among them or behind them. -/
theorem isNumber_positional (negative : Bool) (place : ℤ) :
    IsNumber (Binary64.signText negative ++ Decimal.positionalText ".0" digits place)
      (.number (nearest negative (ofDigits digits) (place - digits.length)).toFloat) := by
  unfold Decimal.positionalText
  split_ifs with before among
  · -- Zeros stand between the point and the digits.
    have right : IsDigits (Decimal.zeros (-place).toNat ++ digits) := isDigits_append (isDigits_zeros _) numbered
    have stated : Decimal.zeros (-place).toNat ++ digits ≠ [] := List.append_ne_nil_of_right_ne_nil _ some
    have value : ofDigits (['0'] ++ (Decimal.zeros (-place).toNat ++ digits)) = ofDigits digits :=
      (ofDigits_zeros_append 1 _).trans (ofDigits_zeros_append _ _)
    have length : (0 : ℤ) - (Decimal.zeros (-place).toNat ++ digits).length = place - digits.length := by
      rw [List.length_append, Decimal.zeros, List.length_replicate]
      omega
    have number := isNumber_of_parts negative isWhole_zero (.present stated right) .absent (.inl stated)
      (by rw [value, Option.getD_none, length])
    simpa using number
  · have left : IsWhole (digits.take place.toNat) := isWhole_take some numbered plain (by omega)
    have right : IsDigits (digits.drop place.toNat) := fun c member => numbered c (List.mem_of_mem_drop member)
    have stated : digits.drop place.toNat ≠ [] := by
      rw [Ne, List.drop_eq_nil_iff]
      omega
    have length : (0 : ℤ) - (digits.drop place.toNat).length = place - digits.length := by
      rw [List.length_drop]
      omega
    have number := isNumber_of_parts negative left (.present stated right) .absent (.inl stated)
      (by rw [List.take_append_drop, Option.getD_none, length])
    simpa using number
  · have left : IsWhole (digits ++ Decimal.zeros (place.toNat - digits.length)) := by
      refine isWhole_of_head (List.append_ne_nil_of_left_ne_nil some _) (isDigits_append numbered (isDigits_zeros _)) ?_
      rwa [List.head?_append_of_ne_nil _ some]
    have value : ofDigits (digits ++ Decimal.zeros (place.toNat - digits.length) ++ ['0']) =
        ofDigits digits * 10 ^ (place.toNat - digits.length + 1) := by
      rw [← ofDigits_append_zeros, List.append_assoc]
      congr 2
      exact List.replicate_succ'.symm
    have shift : (0 : ℤ) - (1 : ℕ) + (place.toNat - digits.length + 1 : ℕ) = place - digits.length := by omega
    have same : decimal (ofDigits (digits ++ Decimal.zeros (place.toNat - digits.length) ++ ['0'])) (0 - (1 : ℕ)) =
        decimal (ofDigits digits) (place - digits.length) := by
      rw [value, decimal_mul_pow, shift]
    have number := isNumber_of_parts negative left (.present (List.cons_ne_nil '0' []) (isDigits_zeros 1)) .absent
      (.inl (List.cons_ne_nil _ _)) same
    simpa using number

/-- Digits with a point behind the first of them, if there is another one, and a power of ten. -/
theorem isNumber_scientific (negative : Bool) (place : ℤ) :
    IsNumber (Binary64.signText negative ++ Decimal.scientificText "+" digits place)
      (.number (nearest negative (ofDigits digits) (place - digits.length)).toFloat) := by
  have left : IsWhole (digits.take 1) := isWhole_take some numbered plain one_ne_zero
  have right : IsDigits (digits.drop 1) := fun c member => numbered c (List.mem_of_mem_drop member)
  have pointed : IsFraction (if (digits.drop 1).isEmpty then [] else '.' :: digits.drop 1) (digits.drop 1) := by
    split_ifs with single
    · rw [List.isEmpty_iff] at single
      rw [single]
      exact .absent
    · exact .present (mt List.isEmpty_iff.mpr single) right
  have length : place - 1 - (digits.drop 1).length = place - digits.length := by
    have := List.length_pos_iff.mpr some
    rw [List.length_drop]
    omega
  have number := isNumber_of_parts negative left pointed (isPower_scientific (place - 1)) (.inr nofun)
    (by rw [List.take_append_drop, Option.getD_some, length])
  unfold Decimal.scientificText
  simpa using number

end Significand

/-- A positive decimal is written as itself. -/
theorem isNumber_text (negative : Bool) (positive : 0 < d.digits) :
    IsNumber (Binary64.signText negative ++ d.text NumberLayout.json)
      (.number (nearest negative d.digits d.exponent).toFloat) := by
  have some : Nat.toDigits 10 d.digits ≠ [] := Nat.toDigits_ne_nil
  have numbered := isDigits_toDigits d.digits
  have plain := head_toDigits positive
  have exponent : d.exponent + (Nat.toDigits 10 d.digits).length - (Nat.toDigits 10 d.digits).length = d.exponent := by
    omega
  have positional := isNumber_positional some numbered plain negative
    (d.exponent + (Nat.toDigits 10 d.digits).length)
  have scientific := isNumber_scientific some numbered plain negative
    (d.exponent + (Nat.toDigits 10 d.digits).length)
  rw [ofDigits_toDigits, exponent] at positional scientific
  unfold Decimal.text
  dsimp only
  split_ifs
  · exact positional
  · exact scientific

end Layouts

/-- A count is written as itself. -/
theorem isNumber_count (count : ℕ) : IsNumber (toString count).toList (.count count) := by
  have whole : IsWhole (Nat.toDigits 10 count) := by
    rcases Nat.eq_zero_or_pos count with rfl | positive
    · exact isWhole_zero
    · exact isWhole_of_head Nat.toDigits_ne_nil (isDigits_toDigits count) (head_toDigits positive)
  have number := IsNumber.count whole
  rw [ofDigits_toDigits] at number
  rwa [Nat.toString_eq_repr, Nat.toList_repr]

/-- A finite double is written as a number that is read as it, bit for bit. -/
theorem isNumber_numberText {x : Float} (finite : x.isFinite = true) : IsNumber (numberText x).toList (.number x) := by
  obtain ⟨negative, units, same⟩ := (Binary64.isFinite_iff x).mp finite
  obtain ⟨grid, room⟩ := Binary64.units_of_finite same
  rw [numberText, same]
  dsimp only
  rw [NumberLayout.text, String.toList_ofList, same, ← Binary64.toFloat_of_finite same, Binary64.chars]
  split_ifs with zero
  · subst zero
    have number := @IsNumber.double negative ['0'] ['.', '0'] ['0'] [] none isWhole_zero
      (.present (List.cons_ne_nil _ _) (isDigits_zeros 1)) .absent (.inr (.inl (List.cons_ne_nil _ _)))
    exact number
  · have positive := Nat.pos_of_ne_zero zero
    rw [← Decimal.nearest_shortest positive grid room NumberLayout.json.tie negative]
    exact isNumber_text negative (Decimal.shortest_digits_pos positive _)

/-- What is not finite has no JSON form. -/
theorem numberText_of_not_finite {x : Float} (infinite : x.isFinite ≠ true) : numberText x = "null" := by
  rw [Ne, Binary64.isFinite_iff] at infinite
  unfold numberText
  split
  · next negative units same => exact (infinite ⟨negative, units, same⟩).elim
  · rfl

end HoldoutLine.Json
