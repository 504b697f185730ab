import HoldoutLine.Decimal.Numeral
import Mathlib.Data.List.TakeDrop
import Mathlib.Tactic.SplitIfs

/-! # The grammar of numerals

Which texts are numerals, said without reading them: an optional sign, then one of three words in any case, or
digits on at least one side of an optional point and an optional power of ten. `Numeral.isNumeral_iff` says that the
reader takes exactly these. It reads as many digits as there are, and what the grammar puts after digits never
begins with one, so the two agree on where they end.
-/

namespace HoldoutLine.Numeral

def IsSign (text : List Char) : Prop := text = [] ∨ text = ['+'] ∨ text = ['-']

/-- Decimal digits, or nothing. -/
def IsDigits (text : List Char) : Prop := ∀ c ∈ text, c.isDigit = true

/-- What may follow the digits: a power of ten, or nothing. -/
inductive IsPower : List Char → Prop where
  | absent : IsPower []
  | present {mark : Char} {sign digits : List Char} (marked : mark = 'e' ∨ mark = 'E') (signed : IsSign sign)
      (some : digits ≠ []) (numbered : IsDigits digits) : IsPower (mark :: (sign ++ digits))

inductive IsUnsigned : List Char → Prop where
  | word {text : List Char} (named : text.map Char.toLower = "inf".toList ∨
      text.map Char.toLower = "infinity".toList ∨ text.map Char.toLower = "nan".toList) : IsUnsigned text
  | whole {digits power : List Char} (some : digits ≠ []) (numbered : IsDigits digits) (powered : IsPower power) :
      IsUnsigned (digits ++ power)
  /-- Digits may be missing on one side of the point. -/
  | pointed {whole fraction power : List Char} (some : whole ≠ [] ∨ fraction ≠ []) (left : IsDigits whole)
      (right : IsDigits fraction) (powered : IsPower power) : IsUnsigned (whole ++ '.' :: (fraction ++ power))

def IsNumeral (text : List Char) : Prop := ∃ sign body, text = sign ++ body ∧ IsSign sign ∧ IsUnsigned body

theorem ofDigits_eq (digits : List Char) : ofDigits digits = Nat.ofDigitChars 10 digits 0 :=
  Nat.ofDigitChars_eq_foldl.symm

section Scanning

variable {digits rest : List Char}

/-- Digits are read to their end where no digit follows. -/
theorem span_digits (numbered : IsDigits digits) (stops : ∀ c ∈ rest.head?, c.isDigit = false) :
    (digits ++ rest).span Char.isDigit = (digits, rest) := by
  have ends : rest.takeWhile Char.isDigit = [] ∧ rest.dropWhile Char.isDigit = rest := by
    cases rest with
    | nil => exact ⟨rfl, rfl⟩
    | cons c tail =>
      have stop := stops c rfl
      exact ⟨List.takeWhile_cons_of_neg (by simp [stop]), List.dropWhile_cons_of_neg (by simp [stop])⟩
  rw [List.span_eq_takeWhile_dropWhile, List.takeWhile_append_of_pos numbered, List.dropWhile_append_of_pos numbered,
    ends.1, ends.2, List.append_nil]

private theorem span_spec (text : List Char) : ∃ digits rest, text.span Char.isDigit = (digits, rest) ∧
    text = digits ++ rest ∧ IsDigits digits := by
  refine ⟨_, _, List.span_eq_takeWhile_dropWhile _ _, List.takeWhile_append_dropWhile.symm, ?_⟩
  exact List.all_eq_true.mp List.all_takeWhile

private theorem splitSign_spec (text : List Char) :
    ∃ sign, text = sign ++ (splitSign text).2 ∧ IsSign sign := by
  unfold splitSign
  split
  · exact ⟨['-'], rfl, .inr (.inr rfl)⟩
  · exact ⟨['+'], rfl, .inr (.inl rfl)⟩
  · exact ⟨[], rfl, .inl rfl⟩

/-- A sign is split off where what follows begins with none. -/
theorem splitSign_append {sign body : List Char} (signed : IsSign sign)
    (unsigned : ∀ c ∈ body.head?, c ≠ '-' ∧ c ≠ '+') : splitSign (sign ++ body) = (sign == ['-'], body) := by
  rcases signed with rfl | rfl | rfl
  · rw [List.nil_append]
    unfold splitSign
    split
    · exact ((unsigned '-' rfl).1 rfl).elim
    · exact ((unsigned '+' rfl).2 rfl).elim
    · rfl
  · rfl
  · rfl

theorem ne_sign_of_isDigit {c : Char} (digit : c.isDigit = true) : c ≠ '-' ∧ c ≠ '+' := by
  constructor <;> rintro rfl <;> cases digit

theorem head_of_digits (some : digits ≠ []) (numbered : IsDigits digits) :
    ∃ c tail, digits = c :: tail ∧ c.isDigit = true := by
  obtain ⟨c, tail, rfl⟩ := List.exists_cons_of_ne_nil some
  exact ⟨c, tail, rfl, numbered c List.mem_cons_self⟩

end Scanning

section Powers

private theorem isPower_of_exponent {text : List Char} (read : (exponent? text).isSome = true) :
    IsPower text := by
  cases text with
  | nil => exact .absent
  | cons mark rest =>
    rw [exponent?] at read
    split_ifs at read with marked
    · obtain ⟨sign, split, signed⟩ := splitSign_spec rest
      generalize splitSign rest = parts at read split
      obtain ⟨negative, digits⟩ := parts
      dsimp only at read split
      split_ifs at read with bad
      · cases read
      all_goals
        rw [not_or, List.isEmpty_iff, Bool.not_eq_true', Bool.not_eq_false] at bad
        exact split ▸ .present marked signed bad.1 (List.all_eq_true.mp bad.2)
    · cases read

/-- A power of ten is read by its sign and the size of its digits. -/
theorem exponent_eq {mark : Char} {sign digits : List Char} (marked : mark = 'e' ∨ mark = 'E')
    (signed : IsSign sign) (some : digits ≠ []) (numbered : IsDigits digits) :
    exponent? (mark :: (sign ++ digits)) =
      .some (if sign = ['-'] then -(powerOfDigits digits : Int) else powerOfDigits digits) := by
  obtain ⟨c, tail, rfl, digit⟩ := head_of_digits some numbered
  have kept : splitSign (sign ++ c :: tail) = (sign == ['-'], c :: tail) := by
    apply splitSign_append signed
    intro first same
    cases same
    exact ne_sign_of_isDigit digit
  rw [exponent?, if_pos marked, kept]
  dsimp only
  rw [if_neg (by simp [List.all_eq_true.mpr numbered])]
  simp only [beq_iff_eq]
  split_ifs <;> rfl

private theorem exponent_isSome_iff (text : List Char) : (exponent? text).isSome = true ↔ IsPower text := by
  constructor
  · exact isPower_of_exponent
  · intro power
    cases power with
    | absent => rfl
    | present marked signed some numbered =>
      rw [exponent_eq marked signed some numbered]
      rfl

end Powers

section Bodies

/-- Neither a digit nor a point begins a power of ten. -/
theorem IsPower.head {power : List Char} (powered : IsPower power) :
    ∀ c ∈ power.head?, c.isDigit = false ∧ c ≠ '.' := by
  cases powered with
  | absent => exact nofun
  | present marked =>
    intro c first
    cases first
    rcases marked with rfl | rfl <;> decide

/-- No sign begins what follows the sign. -/
theorem IsUnsigned.head {body : List Char} (unsigned : IsUnsigned body) : ∀ c ∈ body.head?, c ≠ '-' ∧ c ≠ '+' := by
  intro c first
  cases unsigned with
  | word named =>
    have folded : (body.map Char.toLower).head? = some c.toLower := by rw [List.head?_map, first, Option.map_some]
    constructor <;> rintro rfl <;> rcases named with named | named | named <;> rw [named] at folded <;>
      exact absurd folded (by decide)
  | whole some numbered =>
    obtain ⟨head, tail, rfl, digit⟩ := head_of_digits some numbered
    cases first
    exact ne_sign_of_isDigit digit
  | @pointed whole fraction power some left =>
    cases whole with
    | nil =>
      cases first
      decide
    | cons head tail =>
      cases first
      exact ne_sign_of_isDigit (left _ List.mem_cons_self)

private theorem isUnsigned_of_finite {text : List Char} (read : (finite? text).isSome = true) :
    IsUnsigned text := by
  obtain ⟨whole, afterWhole, spanned, rfl, left⟩ := span_spec text
  rw [finite?, spanned] at read
  dsimp only at read
  unfold splitFraction at read
  split at read
  · next rest =>
    obtain ⟨fraction, power, pointed, rfl, right⟩ := span_spec rest
    rw [pointed] at read
    dsimp only at read
    split_ifs at read with missing
    · cases read
    · rw [Option.isSome_map, exponent_isSome_iff] at read
      rw [List.isEmpty_iff, List.isEmpty_iff, not_and_or] at missing
      exact .pointed missing left right read
  · dsimp only at read
    split_ifs at read with missing
    · cases read
    · rw [Option.isSome_map, exponent_isSome_iff] at read
      rw [List.isEmpty_iff, List.isEmpty_iff, not_and_or] at missing
      exact .whole (missing.resolve_right (not_not_intro rfl)) left read

theorem finite_eq_whole {digits power : List Char} (some : digits ≠ []) (numbered : IsDigits digits)
    (powered : IsPower power) :
    finite? (digits ++ power) = (exponent? power).map fun exponent => .finite (ofDigits digits) exponent := by
  have noPoint : splitFraction power = ([], power) := by
    unfold splitFraction
    split
    · exact ((powered.head '.' rfl).2 rfl).elim
    · rfl
  rw [finite?, span_digits numbered fun c first => (powered.head c first).1]
  dsimp only
  rw [noPoint]
  dsimp only
  rw [if_neg fun missing => some (List.isEmpty_iff.mp missing.1), List.append_nil, List.length_nil]
  simp only [Int.natCast_zero, Int.sub_zero]

theorem finite_eq_pointed {whole fraction power : List Char} (some : whole ≠ [] ∨ fraction ≠ [])
    (left : IsDigits whole) (right : IsDigits fraction) (powered : IsPower power) :
    finite? (whole ++ '.' :: (fraction ++ power)) =
      (exponent? power).map fun exponent => .finite (ofDigits (whole ++ fraction)) (exponent - fraction.length) := by
  have point : ∀ c ∈ ('.' :: (fraction ++ power)).head?, c.isDigit = false := by
    intro c first
    cases first
    decide
  have pointed : splitFraction ('.' :: (fraction ++ power)) = (fraction, power) :=
    span_digits right fun c first => (powered.head c first).1
  rw [finite?, span_digits left point]
  dsimp only
  rw [pointed]
  dsimp only
  rw [if_neg]
  rw [List.isEmpty_iff, List.isEmpty_iff, not_and_or]
  exact some

private theorem unsigned_isSome_iff (text : List Char) : (unsigned? text).isSome = true ↔ IsUnsigned text := by
  unfold unsigned?
  extract_lets folded
  split_ifs with infinite nan
  · exact iff_of_true rfl (.word (infinite.imp_right .inl))
  · exact iff_of_true rfl (.word (.inr (.inr nan)))
  · -- The words are taken before, so only digits are left to read.
    refine ⟨isUnsigned_of_finite, fun unsigned => ?_⟩
    cases unsigned with
    | word named => exact (named.elim (fun word => infinite (.inl word))
        fun other => other.elim (fun word => infinite (.inr word)) nan).elim
    | whole some numbered powered =>
      rw [finite_eq_whole some numbered powered, Option.isSome_map, exponent_isSome_iff]
      exact powered
    | pointed some left right powered =>
      rw [finite_eq_pointed some left right powered, Option.isSome_map, exponent_isSome_iff]
      exact powered

end Bodies

/-- The reader takes the numerals and nothing else. -/
theorem isNumeral_iff (text : List Char) : IsNumeral text ↔ (parse? text).isSome = true := by
  rw [parse?]
  constructor
  · rintro ⟨sign, body, rfl, signed, unsigned⟩
    rw [Option.isSome_map, splitSign_append signed unsigned.head, unsigned_isSome_iff]
    exact unsigned
  · intro read
    rw [Option.isSome_map, unsigned_isSome_iff] at read
    obtain ⟨sign, split, signed⟩ := splitSign_spec text
    exact ⟨sign, _, split, signed, read⟩

theorem isSome_toFloat_iff (text : String) : (toFloat? text).isSome = true ↔ IsNumeral text.toList := by
  rw [toFloat?, Option.isSome_map, isNumeral_iff]

instance (text : List Char) : Decidable (IsNumeral text) := decidable_of_iff _ (isNumeral_iff text).symm

end HoldoutLine.Numeral
