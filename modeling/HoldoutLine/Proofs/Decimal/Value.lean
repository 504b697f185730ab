import HoldoutLine.Proofs.Binary64.Bits
import HoldoutLine.Proofs.Decimal.Grammar
import HoldoutLine.Proofs.Decimal.Nearest

/-! # The doubles that numerals write

Which double a text writes, said without reading it: `Numeral.Writes` takes the text apart as the grammar does, and
asks for the double nearest to the number that the digits stand for, or for the one that the word names.
`Numeral.toFloat_eq_some_iff` says that the reader finds this double and no other.

Of the digits of a power of ten only those count that are needed to reach `2^16`. Among numerals of a usual length
this makes no difference (`value_of_sizeStates`): such a number is out of range either way.
-/

namespace HoldoutLine.Numeral

open Binary64

section Meaning

inductive SignStates : List Char → Bool → Prop where
  | absent : SignStates [] false
  | plus : SignStates ['+'] false
  | minus : SignStates ['-'] true

/-- The size that the digits of a power of ten state: the number written by those in front, as many as there are or
as it takes to reach `2^16`. -/
def SizeStates (digits : List Char) (size : ℕ) : Prop :=
  ∃ front rest, digits = front ++ rest ∧ Nat.ofDigitChars 10 front 0 = size ∧
    Nat.ofDigitChars 10 front.dropLast 0 < 2 ^ 16 ∧ (rest = [] ∨ 2 ^ 16 ≤ size)

/-- The power of ten that the text behind the digits states. -/
inductive PowerStates : List Char → ℤ → Prop where
  | absent : PowerStates [] 0
  | present {mark : Char} {sign digits : List Char} {negative : Bool} {size : ℕ} (marked : mark = 'e' ∨ mark = 'E')
      (signed : SignStates sign negative) (some : digits ≠ []) (numbered : IsDigits digits)
      (sized : SizeStates digits size) : PowerStates (mark :: (sign ++ digits)) (if negative then -size else size)

/-- What a numeral says behind its sign. -/
inductive States : List Char → Numeral → Prop where
  | infinity {text : List Char}
      (named : text.map Char.toLower = "inf".toList ∨ text.map Char.toLower = "infinity".toList) : States text .infinity
  | notANumber {text : List Char} (named : text.map Char.toLower = "nan".toList) : States text .notANumber
  | whole {digits power : List Char} {exponent : ℤ} (some : digits ≠ []) (numbered : IsDigits digits)
      (powered : PowerStates power exponent) :
      States (digits ++ power) (.finite (Nat.ofDigitChars 10 digits 0) exponent)
  /-- Each digit behind the point takes one off the power of ten. -/
  | pointed {whole fraction power : List Char} {exponent : ℤ} (some : whole ≠ [] ∨ fraction ≠ [])
      (left : IsDigits whole) (right : IsDigits fraction) (powered : PowerStates power exponent) :
      States (whole ++ '.' :: (fraction ++ power))
        (.finite (Nat.ofDigitChars 10 (whole ++ fraction) 0) (exponent - fraction.length))

/-- The double that is meant: of a decimal number the nearest, which is infinite beyond the range. -/
noncomputable def value (negative : Bool) : Numeral → Binary64
  | .infinity => .infinite negative
  | .notANumber => .notANumber
  | .finite significand exponent => ofUnits negative (Binary64.nearest (decimal significand exponent / unit))

/-- A text writes a double. -/
def Writes (text : List Char) (x : Float) : Prop :=
  ∃ sign body negative numeral, text = sign ++ body ∧ SignStates sign negative ∧ States body numeral ∧
    ofFloat x = value negative numeral

/-- A text writes a double that is finite. -/
def WritesFinite (text : List Char) : Prop := ∃ x, Writes text x ∧ x.isFinite = true

end Meaning

section Digits

variable {digits front later rest : List Char} {size other : ℕ}

private theorem ofDigitChars_le_append (front later : List Char) :
    Nat.ofDigitChars 10 front 0 ≤ Nat.ofDigitChars 10 (front ++ later) 0 := by
  have shift : 0 < 10 ^ later.length := by positivity
  calc Nat.ofDigitChars 10 front 0 ≤ 10 ^ later.length * Nat.ofDigitChars 10 front 0 := Nat.le_mul_of_pos_left _ shift
    _ ≤ 10 ^ later.length * Nat.ofDigitChars 10 front 0 + Nat.ofDigitChars 10 later 0 := Nat.le_add_right _ _
    _ = Nat.ofDigitChars 10 (front ++ later) 0 := by
      rw [Nat.ofDigitChars_append, ← Nat.ofDigitChars_eq_ofDigitChars_zero]

private theorem ofDigitChars_lt (numbered : IsDigits digits) :
    Nat.ofDigitChars 10 digits 0 < 10 ^ digits.length := by
  induction digits using List.reverseRecOn with
  | nil => exact one_pos
  | append_singleton digits c ih =>
    have below := ih fun d member => numbered d (List.mem_append_left _ member)
    have digit : c.toNat - '0'.toNat < 10 := by
      have range := Char.isDigit_iff_toNat.mp (numbered c (by simp))
      have limits : '0'.toNat = 48 ∧ '9'.toNat = 57 := ⟨rfl, rfl⟩
      omega
    rw [Nat.ofDigitChars_append, Nat.ofDigitChars_cons, Nat.ofDigitChars_nil, List.length_append, List.length_singleton,
      Nat.pow_succ]
    omega

private theorem powerOfDigits_concat (digits : List Char) (c : Char) :
    powerOfDigits (digits ++ [c]) =
      if powerOfDigits digits < 2 ^ 16 then 10 * powerOfDigits digits + (c.toNat - '0'.toNat)
      else powerOfDigits digits := by
  rw [powerOfDigits, List.foldl_append]
  rfl

/-- The reader takes the size that is stated. -/
theorem sizeStates_powerOfDigits (digits : List Char) : SizeStates digits (powerOfDigits digits) := by
  induction digits using List.reverseRecOn with
  | nil => exact ⟨[], [], rfl, rfl, by decide, .inl rfl⟩
  | append_singleton digits c ih =>
    obtain ⟨front, rest, split, size, few, enough⟩ := ih
    rw [powerOfDigits_concat]
    split_ifs with more
    · obtain rfl : rest = [] := enough.resolve_right (Nat.not_le.mpr more)
      obtain rfl : digits = front := split.trans (List.append_nil front)
      refine ⟨digits ++ [c], [], (List.append_nil _).symm, ?_, ?_, .inl rfl⟩
      · rw [Nat.ofDigitChars_append, size, Nat.ofDigitChars_cons, Nat.ofDigitChars_nil]
      · rwa [List.dropLast_concat, size]
    · exact ⟨front, rest ++ [c], by rw [split, List.append_assoc], size, few, .inr (Nat.not_lt.mp more)⟩

/-- No digits are counted behind those that are enough. -/
private theorem later_eq_nil (few : Nat.ofDigitChars 10 (front ++ later).dropLast 0 < 2 ^ 16)
    (enough : later ++ rest = [] ∨ 2 ^ 16 ≤ Nat.ofDigitChars 10 front 0) : later = [] := by
  by_contra some
  rw [List.dropLast_append_of_ne_nil some] at few
  rcases enough with none | enough
  · exact some (List.append_eq_nil_iff.mp none).1
  · have := ofDigitChars_le_append front later.dropLast
    omega

theorem SizeStates.unique (here : SizeStates digits size) (there : SizeStates digits other) : size = other := by
  obtain ⟨front, rest, rfl, rfl, few, enough⟩ := here
  obtain ⟨front', rest', same, rfl, few', enough'⟩ := there
  rcases List.append_eq_append_iff.mp same with ⟨later, rfl, rfl⟩ | ⟨later, rfl, rfl⟩
  · rw [later_eq_nil few' enough, List.append_nil]
  · rw [later_eq_nil few enough', List.append_nil]

end Digits

section Reading

variable {text sign body power : List Char} {negative : Bool} {numeral : Numeral} {exponent : ℤ} {x : Float}

private theorem SignStates.isSign (signed : SignStates sign negative) :
    IsSign sign ∧ (sign == ['-']) = negative := by
  cases signed with
  | absent => exact ⟨.inl rfl, rfl⟩
  | plus => exact ⟨.inr (.inl rfl), rfl⟩
  | minus => exact ⟨.inr (.inr rfl), rfl⟩

private theorem exists_signStates (signed : IsSign sign) : ∃ negative, SignStates sign negative := by
  rcases signed with rfl | rfl | rfl
  · exact ⟨_, .absent⟩
  · exact ⟨_, .plus⟩
  · exact ⟨_, .minus⟩

private theorem PowerStates.isPower (stated : PowerStates power exponent) :
    IsPower power ∧ exponent? power = some exponent := by
  cases stated with
  | absent => exact ⟨.absent, rfl⟩
  | present marked signed some numbered sized =>
    obtain ⟨isSign, rfl⟩ := signed.isSign
    refine ⟨.present marked isSign some numbered, ?_⟩
    rw [exponent_eq marked isSign some numbered, (sizeStates_powerOfDigits _).unique sized]
    simp only [beq_iff_eq]

private theorem exists_powerStates (powered : IsPower power) : ∃ exponent, PowerStates power exponent := by
  cases powered with
  | absent => exact ⟨0, .absent⟩
  | present marked signed some numbered =>
    obtain ⟨negative, stated⟩ := exists_signStates signed
    exact ⟨_, .present marked stated some numbered (sizeStates_powerOfDigits _)⟩

private theorem toLower_of_isDigit {c : Char} (digit : c.isDigit = true) : c.toLower = c := by
  have few : c.toNat ≤ '9'.toNat := (Char.isDigit_iff_toNat.mp digit).2
  unfold Char.toLower
  rw [dif_neg]
  rintro ⟨capital, -⟩
  have more : 'A'.toNat ≤ c.toNat := UInt32.le_iff_toNat_le.mp capital
  exact absurd (more.trans few) (by decide)

/-- What begins with a digit or a point is none of the words. -/
theorem unsigned_eq_finite {c : Char} (first : text.head? = some c) (plain : c.isDigit = true ∨ c = '.') :
    unsigned? text = finite? text := by
  have small : c.toLower ≠ 'i' ∧ c.toLower ≠ 'n' := by
    rcases plain with digit | rfl
    · rw [toLower_of_isDigit digit]
      constructor <;> rintro rfl <;> cases digit
    · decide
  have folded : (text.map Char.toLower).head? = some c.toLower := by rw [List.head?_map, first, Option.map_some]
  unfold unsigned?
  dsimp only
  rw [if_neg, if_neg]
  · intro nan
    rw [nan] at folded
    exact small.2 (Option.some.inj folded).symm
  · rintro (inf | infinity)
    · rw [inf] at folded
      exact small.1 (Option.some.inj folded).symm
    · rw [infinity] at folded
      exact small.1 (Option.some.inj folded).symm

private theorem States.isUnsigned (stated : States body numeral) :
    IsUnsigned body ∧ unsigned? body = some numeral := by
  cases stated with
  | infinity named => exact ⟨.word (named.imp_right .inl), if_pos named⟩
  | notANumber named =>
    refine ⟨.word (.inr (.inr named)), ?_⟩
    unfold unsigned?
    rw [named]
    rfl
  | whole some numbered powered =>
    obtain ⟨isPower, read⟩ := powered.isPower
    obtain ⟨c, tail, rfl, digit⟩ := head_of_digits some numbered
    refine ⟨.whole some numbered isPower, ?_⟩
    rw [unsigned_eq_finite rfl (.inl digit), finite_eq_whole some numbered isPower, read, Option.map_some, ofDigits_eq]
  | @pointed whole fraction power exponent some left right powered =>
    obtain ⟨isPower, read⟩ := powered.isPower
    refine ⟨.pointed some left right isPower, ?_⟩
    have plain : unsigned? (whole ++ '.' :: (fraction ++ power)) = finite? (whole ++ '.' :: (fraction ++ power)) := by
      cases whole with
      | nil => exact unsigned_eq_finite rfl (.inr rfl)
      | cons c tail => exact unsigned_eq_finite rfl (.inl (left c List.mem_cons_self))
    rw [plain, finite_eq_pointed some left right isPower, read, Option.map_some, ofDigits_eq]

private theorem exists_states (unsigned : IsUnsigned body) : ∃ numeral, States body numeral := by
  cases unsigned with
  | word named =>
    rcases named with inf | infinity | nan
    · exact ⟨_, .infinity (.inl inf)⟩
    · exact ⟨_, .infinity (.inr infinity)⟩
    · exact ⟨_, .notANumber nan⟩
  | whole some numbered powered =>
    obtain ⟨exponent, stated⟩ := exists_powerStates powered
    exact ⟨_, .whole some numbered stated⟩
  | pointed some left right powered =>
    obtain ⟨exponent, stated⟩ := exists_powerStates powered
    exact ⟨_, .pointed some left right stated⟩

private theorem toBinary64_eq_value (negative : Bool) (numeral : Numeral) :
    numeral.toBinary64 negative = value negative numeral := by
  cases numeral with
  | finite significand exponent => exact nearest_eq_ofUnits negative significand exponent
  | _ => rfl

private theorem isDouble_value (negative : Bool) (numeral : Numeral) : (value negative numeral).IsDouble := by
  cases numeral with
  | finite significand exponent =>
    have nonneg : 0 ≤ decimal significand exponent / unit := by
      have := unit_pos
      unfold decimal
      positivity
    rw [value, ofUnits]
    split_ifs with room
    · exact ⟨onGrid_nearest nonneg, room⟩
    · trivial
  | _ => trivial

theorem Writes.read (writes : Writes text x) : toFloat? (String.ofList text) = some x := by
  obtain ⟨sign, body, negative, numeral, rfl, signed, stated, same⟩ := writes
  obtain ⟨isSign, rfl⟩ := signed.isSign
  obtain ⟨unsigned, read⟩ := stated.isUnsigned
  rw [toFloat?, String.toList_ofList, parse?, splitSign_append isSign unsigned.head]
  dsimp only
  rw [read, Option.map_some, Option.map_some, toBinary64_eq_value, ← same, toFloat_ofFloat]

theorem Writes.unique {y : Float} (here : Writes text x) (there : Writes text y) : x = y :=
  Option.some.inj (here.read.symm.trans there.read)

private theorem exists_writes (numeral : IsNumeral text) : ∃ x, Writes text x := by
  obtain ⟨sign, body, rfl, signed, unsigned⟩ := numeral
  obtain ⟨negative, stated⟩ := exists_signStates signed
  obtain ⟨numeral, meant⟩ := exists_states unsigned
  exact ⟨_, sign, body, negative, numeral, rfl, stated, meant, ofFloat_toFloat (isDouble_value negative numeral)⟩

end Reading

/-- A text writes a double exactly if it is a numeral. -/
theorem isNumeral_iff_writes (text : List Char) : IsNumeral text ↔ ∃ x, Writes text x := by
  refine ⟨exists_writes, fun ⟨x, writes⟩ => ?_⟩
  obtain ⟨sign, body, negative, numeral, rfl, signed, stated, -⟩ := writes
  exact ⟨sign, body, rfl, signed.isSign.1, stated.isUnsigned.1⟩

/-- The reader finds the double that a text writes, and none where it writes none. -/
theorem toFloat_eq_some_iff {text : String} {x : Float} : toFloat? text = some x ↔ Writes text.toList x := by
  have reads : ∀ {y}, Writes text.toList y → toFloat? text = some y := fun writes => by
    rw [← writes.read, String.ofList_toList]
  constructor
  · intro read
    obtain ⟨y, writes⟩ := exists_writes ((isSome_toFloat_iff text).mp (Option.isSome_of_eq_some read))
    obtain rfl : x = y := Option.some.inj (read.symm.trans (reads writes))
    exact writes
  · exact reads

theorem writesFinite_iff (text : List Char) :
    WritesFinite text ↔ (toFloat? (String.ofList text)).any Float.isFinite = true := by
  simp only [WritesFinite, Option.any_eq_true, toFloat_eq_some_iff, String.toList_ofList]

instance (text : List Char) : Decidable (WritesFinite text) := decidable_of_iff _ (writesFinite_iff text).symm

section Saturation

variable {digits power : List Char} {size places : ℕ}

/-- The digits that are not counted make the power larger still. -/
theorem SizeStates.eq_or_le (sized : SizeStates power size) :
    size = Nat.ofDigitChars 10 power 0 ∨ 2 ^ 16 ≤ size ∧ 2 ^ 16 ≤ Nat.ofDigitChars 10 power 0 := by
  obtain ⟨front, rest, rfl, rfl, -, enough⟩ := sized
  rcases enough with rfl | enough
  · exact .inl (by rw [List.append_nil])
  · exact .inr ⟨enough, enough.trans (ofDigitChars_le_append front rest)⟩

/-- With up to sixteen thousand digits a number is out of range under every power of ten that is not counted to its
end, so what is read is the number that is written. -/
theorem value_of_sizeStates (negative small : Bool) (numbered : IsDigits digits) (short : digits.length ≤ 16000)
    (behind : places ≤ digits.length) (sized : SizeStates power size) :
    value negative (.finite (Nat.ofDigitChars 10 digits 0) ((if small then -(size : ℤ) else size) - places)) =
      value negative (.finite (Nat.ofDigitChars 10 digits 0)
        ((if small then -(Nat.ofDigitChars 10 power 0 : ℤ) else Nat.ofDigitChars 10 power 0) - places)) := by
  rcases sized.eq_or_le with rfl | ⟨large, larger⟩
  · rfl
  have below := ofDigitChars_lt numbered
  generalize Nat.ofDigitChars 10 power 0 = number at larger
  generalize Nat.ofDigitChars 10 digits 0 = significand at below
  have power_le : 10 ^ digits.length ≤ 2 ^ (4 * digits.length) := by
    rw [Nat.pow_mul]
    exact Nat.pow_le_pow_left (by decide) digits.length
  have log_lt : significand.log2 < 4 * digits.length + 1 :=
    log2_lt_of_lt (by omega) (below.trans_le (power_le.trans (Nat.pow_le_pow_right (by decide) (Nat.le_succ _))))
  rw [value, value, ← nearest_eq_ofUnits, ← nearest_eq_ofUnits]
  unfold nearest
  cases small with
  | true =>
    simp only [if_true]
    rw [if_neg (show ¬ 400 < -(size : ℤ) - places by omega), if_neg (show ¬ 400 < -(number : ℤ) - places by omega),
      if_pos (show -(size : ℤ) - places < -(400 + significand.log2) by omega),
      if_pos (show -(number : ℤ) - places < -(400 + significand.log2) by omega)]
  | false =>
    simp only [Bool.false_eq_true, if_false]
    rw [if_pos (show 400 < (size : ℤ) - places by omega), if_pos (show 400 < (number : ℤ) - places by omega)]

end Saturation

end HoldoutLine.Numeral
