import HoldoutLine.Command.Options
import HoldoutLine.Proofs.Decimal.Value
import HoldoutLine.Proofs.Except

/-! # Values of options

Which texts are values of an option, said by their grammar: numerals, counts of a machine word, and the names of the
forms and layouts in any case. `Settings.assign?` takes exactly these, and reads from them what they state.
-/

namespace HoldoutLine

/-- A text states a count that fits a machine word, in digits after an optional plus sign. -/
structure StatesCount (text : String) (count : Nat) : Prop where
  digits : ∃ digits, (text.toList = digits ∨ text.toList = '+' :: digits) ∧ digits ≠ [] ∧
    Numeral.IsDigits digits ∧ Nat.ofDigitChars 10 digits 0 = count
  fits : count < UInt64.size

def OutputFormat.names : OutputFormat → List String
  | .text => ["text", "txt"]
  | .json => ["json"]

def ReportStyle.names : ReportStyle → List String
  | .detailed => ["detailed", "full"]
  | .brief => ["brief", "short"]

theorem OutputFormat.toOption_ofName_iff {name : String} {format : OutputFormat} :
    (OutputFormat.ofName name).toOption = some format ↔ name.toLower ∈ format.names := by
  rw [toOption_eq_some_iff]
  unfold OutputFormat.ofName
  generalize name.toLower = small
  split
  · cases format <;> simp [names]
  · cases format <;> simp [names]
  · cases format <;> simp [names]
  · next unnamed => cases format <;> simp_all [names]

theorem ReportStyle.toOption_ofName_iff {name : String} {style : ReportStyle} :
    (ReportStyle.ofName name).toOption = some style ↔ name.toLower ∈ style.names := by
  rw [toOption_eq_some_iff]
  unfold ReportStyle.ofName
  generalize name.toLower = small
  split
  · cases style <;> simp [names]
  · cases style <;> simp [names]
  · cases style <;> simp [names]
  · cases style <;> simp [names]
  · cases style <;> simp_all [names]

namespace Command

/-- The words of a machine are the numbers below their limit. -/
theorem ofNat_eq_iff {value : Nat} {count : UInt64} (fits : value < UInt64.size) :
    UInt64.ofNat value = count ↔ value = count.toNat := by
  rw [← UInt64.toNat_inj, UInt64.toNat_ofNat_of_lt' fits]

theorem readCount_eq_some_iff {text : String} {count : UInt64} :
    readCount? text = some count ↔ StatesCount text count.toNat := by
  have limit : ∀ n, ¬ Binary64.maxCount < n ↔ n < UInt64.size := by
    intro n
    have greatest : Binary64.maxCount + 1 = UInt64.size := by decide
    omega
  unfold readCount?
  extract_lets digits value
  have accepted : (if digits.isEmpty ∨ !digits.all Char.isDigit ∨ Binary64.maxCount < value then none
      else some (UInt64.ofNat value)) = some count ↔
      digits ≠ [] ∧ Numeral.IsDigits digits ∧ value < UInt64.size ∧ value = count.toNat := by
    rw [ite_eq_iff]
    simp only [reduceCtorEq, and_false, false_or, not_or, List.isEmpty_iff, Bool.not_eq_true', Bool.not_eq_false,
      List.all_eq_true, limit, Option.some.injEq, and_assoc]
    refine and_congr_right fun _ => and_congr_right fun _ => and_congr_right fun fits => ?_
    exact ofNat_eq_iff fits
  rw [accepted]
  constructor
  · rintro ⟨nonempty, numbered, fits, same⟩
    refine ⟨⟨digits, ?_, nonempty, numbered, (Numeral.ofDigits_eq digits).symm.trans same⟩, same ▸ fits⟩
    simp only [digits]
    split
    · next signed => exact .inr signed
    · exact .inl rfl
  · rintro ⟨⟨stated, shape, nonempty, numbered, same⟩, fits⟩
    have stripped : digits = stated := by
      simp only [digits]
      rcases shape with plain | signed
      · rw [plain]
        split
        · exact absurd (numbered '+' List.mem_cons_self) (by decide)
        · rfl
      · rw [signed]
        rfl
    have equal : value = count.toNat := (Numeral.ofDigits_eq digits).trans (stripped ▸ same)
    exact ⟨stripped ▸ nonempty, stripped ▸ numbered, equal ▸ fits, equal⟩

/-- The texts that are values of an option. -/
def ValueOption.Takes : ValueOption → String → Prop
  | .input, _ => True
  | .testSize, text => Numeral.IsNumeral text.toList
  | .seed, text | .rows, text => ∃ count, StatesCount text count
  | .format, text => ∃ format : OutputFormat, text.toLower ∈ format.names
  | .style, text => ∃ style : ReportStyle, text.toLower ∈ style.names

theorem isSome_readCount_iff {text : String} : (readCount? text).isSome = true ↔ ∃ count, StatesCount text count := by
  rw [Option.isSome_iff_exists]
  constructor
  · rintro ⟨count, read⟩
    exact ⟨count.toNat, readCount_eq_some_iff.mp read⟩
  · rintro ⟨count, stated⟩
    refine ⟨UInt64.ofNat count, readCount_eq_some_iff.mpr ?_⟩
    rw [UInt64.toNat_ofNat_of_lt' stated.fits]
    exact stated

/-- A value is assigned exactly if the option takes it, whatever the settings are. -/
theorem isSome_assign_iff (settings : Settings) (option : ValueOption) (text : String) :
    (settings.assign? option text).isSome = true ↔ option.Takes text := by
  cases option with
  | input => exact iff_of_true rfl trivial
  | testSize =>
    rw [Settings.assign?, Option.isSome_map]
    exact Numeral.isSome_toFloat_iff text
  | seed =>
    rw [Settings.assign?, Option.isSome_map]
    exact isSome_readCount_iff
  | rows =>
    rw [Settings.assign?, Option.isSome_map]
    exact isSome_readCount_iff
  | format =>
    simp only [Settings.assign?, Option.isSome_map, Option.isSome_iff_exists, OutputFormat.toOption_ofName_iff,
      ValueOption.Takes]
  | style =>
    simp only [Settings.assign?, Option.isSome_map, Option.isSome_iff_exists, ReportStyle.toOption_ofName_iff,
      ValueOption.Takes]

instance (option : ValueOption) (text : String) : Decidable (option.Takes text) :=
  decidable_of_iff _ (isSome_assign_iff {} option text)

end Command

end HoldoutLine
