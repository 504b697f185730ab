import HoldoutLine.Text.Blank
import HoldoutLine.Text.Lowercase
import Mathlib.Data.List.Basic
import Mathlib.Data.List.Induction
import Mathlib.Tactic.SplitIfs

/-! # Small letters stay small

Lowercasing replaces a capital by small letters only. No range of small forms meets a range of capitals, so what it
has written it does not change again, and `lowercase_lowercase` follows. No range of small forms meets the blanks, the
signs or the capitals of ASCII either: a text that shows something at its ends still does when its letters are small.
-/

namespace HoldoutLine

namespace CharTable

def CaseRange.lastSmall (r : CaseRange) : Nat := r.small + (r.last - r.first)

/-- The small forms of one range are no capitals of another: the ranges lie apart, or every other code point is a
small form and the ones between are the capitals. It is asked of all pairs of ranges, so it is a check on numberals
and not a decidable proposition. -/
def CaseRange.missesCapitals (r s : CaseRange) : Bool :=
  Nat.blt s.last r.small || Nat.blt r.lastSmall s.first ||
    ((Nat.beq r.last r.first || Nat.beq r.step 2) && Nat.beq s.step 2 && Nat.beq ((r.small + s.first) % 2) 1)

/-- The small forms of a range lie outside another range of code points. -/
def CaseRange.MissesCodes (r : CaseRange) (codes : Nat × Nat) : Prop := r.lastSmall < codes.1 ∨ codes.2 < r.small

instance (r : CaseRange) (codes : Nat × Nat) : Decidable (r.MissesCodes codes) := inferInstanceAs (Decidable (_ ∨ _))

/-- What no small form is: the signs and capitals of ASCII, the blanks, the dotted capital I and what is no code
point. -/
def neverSmall : List (Nat × Nat) :=
  [(0, 0x60), (0x85, 0x85), (0xA0, 0xA0), (0x130, 0x130), (0x1680, 0x1680), (0x2000, 0x200A), (0x2028, 0x202F),
   (0x205F, 0x205F), (0x3000, 0x3000), (0xD800, 0xDFFF)]

private theorem missesCapitals_of_mem :
    (capitals.all fun r => capitals.all r.missesCapitals) = true := by decide +kernel

private theorem missesCodes_of_mem :
    ∀ r ∈ capitals, ∀ codes ∈ neverSmall, r.MissesCodes codes := by decide +kernel

private theorem lastSmall_lt : ∀ r ∈ capitals, r.lastSmall < 0x110000 := by decide +kernel

/-- Code points that are the small form of a capital. -/
def IsSmallForm (code : Nat) : Prop :=
  ∃ r ∈ capitals, r.small ≤ code ∧ code ≤ r.lastSmall ∧ (code - r.small) % r.step = 0

end CharTable

open CharTable

variable {c : Char} {code : Nat} {before text : List Char}

/-- A code point is small or has a small form. -/
theorem smallCode_cases (code : Nat) : smallCode code = code ∨ IsSmallForm (smallCode code) := by
  unfold smallCode
  split
  · next r found =>
    have inside := List.find?_some found
    simp only [decide_eq_true_eq] at inside
    obtain ⟨low, high, step⟩ := inside
    right
    refine ⟨r, List.mem_of_find?_eq_some found, Nat.le_add_right .., ?_, ?_⟩
    · exact Nat.add_le_add_left (Nat.sub_le_sub_right high r.first) r.small
    · rw [Nat.add_sub_cancel_left, step]
  · exact .inl rfl

/-- Small forms are small. -/
theorem smallCode_of_isSmallForm (form : IsSmallForm code) : smallCode code = code := by
  obtain ⟨r, member, low, high, step⟩ := form
  have absent : (capitals.find? fun s => s.first ≤ code ∧ code ≤ s.last ∧ (code - s.first) % s.step = 0) = none := by
    rw [List.find?_eq_none]
    intro s other inside
    rw [decide_eq_true_eq] at inside
    obtain ⟨above, below, capital⟩ := inside
    have apart := List.all_eq_true.mp (List.all_eq_true.mp missesCapitals_of_mem r member) s other
    simp only [CaseRange.missesCapitals, Bool.or_eq_true, Bool.and_eq_true, Nat.blt_eq, Nat.beq_eq] at apart
    rcases apart with (before | after) | ⟨⟨alone | double, twice⟩, odd⟩
    · omega
    · omega
    -- The capitals of `s` are every other code point, and `code` is one of those between.
    · have single : r.lastSmall = r.small := by rw [CaseRange.lastSmall, alone, Nat.sub_self, Nat.add_zero]
      rw [twice] at capital
      omega
    · rw [double] at step
      rw [twice] at capital
      omega
  rw [smallCode, absent]

private theorem isSmallForm_misses (form : IsSmallForm code) :
    ∀ codes ∈ neverSmall, code < codes.1 ∨ codes.2 < code := by
  intro codes never
  obtain ⟨r, member, low, high, -⟩ := form
  rcases missesCodes_of_mem r member codes never with before | after
  · exact .inl (Nat.lt_of_le_of_lt high before)
  · exact .inr (Nat.lt_of_lt_of_le after low)

/-- Characters that lowercasing leaves alone. -/
def IsSmall (c : Char) : Prop := c ≠ 'İ' ∧ smallCode c.toNat = c.toNat

instance (c : Char) : Decidable (IsSmall c) := inferInstanceAs (Decidable (_ ∧ _))

/-- What lowercasing writes in place of a capital. -/
structure IsNewLetter (c : Char) : Prop where
  small : IsSmall c
  beyondSigns : 0x61 ≤ c.toNat
  solid : isBlank c = false

instance (c : Char) : Decidable (IsNewLetter c) :=
  decidable_of_iff (IsSmall c ∧ 0x61 ≤ c.toNat ∧ isBlank c = false)
    ⟨fun parts => ⟨parts.1, parts.2.1, parts.2.2⟩, fun new => ⟨new.small, new.beyondSigns, new.solid⟩⟩

private theorem isNewLetter_of_isSmallForm (form : IsSmallForm code) : IsNewLetter (Char.ofNat code) := by
  have misses := isSmallForm_misses form
  simp only [neverSmall, List.forall_mem_cons] at misses
  have valid : code.isValidChar := by
    obtain ⟨r, member, -, high, -⟩ := form
    have bounded := lastSmall_lt r member
    unfold Nat.isValidChar
    omega
  have value : (Char.ofNat code).toNat = code := by
    rw [Char.ofNat, dif_pos valid]
    rfl
  refine ⟨⟨?_, ?_⟩, ?_, ?_⟩
  · rintro same
    have dotted : code = 0x130 := value.symm.trans (congrArg Char.toNat same)
    omega
  · rw [value, smallCode_of_isSmallForm form]
  · rw [value]
    omega
  · rw [isBlank, value, decide_eq_false_iff_not]
    omega

/-- The letters for the two capitals that need more than a table. -/
theorem isNewLetter_special :
    IsNewLetter 'i' ∧ IsNewLetter '\u0307' ∧ IsNewLetter 'ς' ∧ IsNewLetter 'σ' := by decide +kernel

/-- A character is small and stays, or there are new letters for it. -/
theorem lowercaseChar_cases (before : List Char) (c : Char) (after : List Char) :
    (IsSmall c ∧ lowercaseChar before c after = [c]) ∨
      (lowercaseChar before c after ≠ [] ∧ ∀ d ∈ lowercaseChar before c after, IsNewLetter d) := by
  obtain ⟨i, dot, final, sigma⟩ := isNewLetter_special
  unfold lowercaseChar
  split_ifs with dotted capital ends
  · right
    simp [i, dot]
  · right
    simp [final]
  · right
    simp [sigma]
  · rcases smallCode_cases c.toNat with small | form
    · left
      rw [small, Char.ofNat_toNat]
      exact ⟨⟨dotted, small⟩, rfl⟩
    · right
      simp [isNewLetter_of_isSmallForm form]

private theorem lowercaseChar_of_isSmall (small : IsSmall c) (before after : List Char) :
    lowercaseChar before c after = [c] := by
  have plain : c ≠ 'Σ' := by
    rintro rfl
    exact absurd small.2 (by decide +kernel)
  rw [lowercaseChar, if_neg small.1, if_neg plain, small.2, Char.ofNat_toNat]

/-- What comes out of lowercasing is new, or small and was there before. -/
theorem mem_lowercaseAfter (member : c ∈ lowercaseAfter before text) :
    IsNewLetter c ∨ (IsSmall c ∧ c ∈ text) := by
  induction text generalizing before with
  | nil => cases member
  | cons first rest ih =>
    rcases List.mem_append.mp member with here | later
    · rcases lowercaseChar_cases before first rest with ⟨small, stays⟩ | ⟨-, new⟩
      · rw [stays, List.mem_singleton] at here
        subst here
        exact .inr ⟨small, List.mem_cons_self⟩
      · exact .inl (new c here)
    · exact (ih later).imp_right fun kept => ⟨kept.1, List.mem_cons_of_mem _ kept.2⟩

private theorem isSmall_of_mem_lowercase (member : c ∈ lowercase text) : IsSmall c :=
  (mem_lowercaseAfter member).elim IsNewLetter.small And.left

private theorem lowercaseAfter_of_isSmall (small : ∀ c ∈ text, IsSmall c) :
    lowercaseAfter before text = text := by
  induction text generalizing before with
  | nil => rfl
  | cons c rest ih =>
    rw [List.forall_mem_cons] at small
    rw [lowercaseAfter, lowercaseChar_of_isSmall small.1, ih small.2, List.singleton_append]

/-- A text in small letters is its own small form. -/
theorem lowercase_of_isSmall (small : ∀ c ∈ text, IsSmall c) : lowercase text = text :=
  lowercaseAfter_of_isSmall small

/-- Lowercasing once is enough, although it looks at the letters around a sigma. -/
theorem lowercase_lowercase (text : List Char) : lowercase (lowercase text) = lowercase text :=
  lowercase_of_isSmall fun _ member => isSmall_of_mem_lowercase member

/-- The last character is lowercased with nothing after it. -/
theorem lowercaseAfter_concat (before text : List Char) (c : Char) :
    ∃ initial, lowercaseAfter before (text ++ [c]) = initial ++ lowercaseChar (text.reverse ++ before) c [] := by
  induction text generalizing before with
  | nil => exact ⟨[], List.append_nil _⟩
  | cons first rest ih =>
    obtain ⟨initial, ends⟩ := ih (first :: before)
    refine ⟨lowercaseChar before first (rest ++ [c]) ++ initial, ?_⟩
    rw [List.cons_append, lowercaseAfter, ends, List.append_assoc, List.reverse_cons, List.append_assoc]
    rfl

/-- A small form starts with a new letter or as the text does. -/
theorem head_lowercase (starts : (lowercase text).head? = some c) :
    IsNewLetter c ∨ text.head? = some c := by
  cases text with
  | nil => cases starts
  | cons first rest =>
    rw [lowercase, lowercaseAfter] at starts
    rcases lowercaseChar_cases [] first rest with ⟨-, stays⟩ | ⟨some_letter, new⟩
    · rw [stays] at starts
      exact .inr starts
    · rw [List.head?_append_of_ne_nil _ some_letter] at starts
      exact .inl (new c (List.mem_of_head? starts))

/-- A small form ends in a new letter or as the text does. -/
theorem getLast_lowercase (ends : (lowercase text).getLast? = some c) :
    IsNewLetter c ∨ text.getLast? = some c := by
  induction text using List.reverseRecOn with
  | nil => cases ends
  | append_singleton rest last =>
    obtain ⟨initial, parted⟩ := lowercaseAfter_concat [] rest last
    rw [lowercase, parted] at ends
    rcases lowercaseChar_cases (rest.reverse ++ []) last [] with ⟨-, stays⟩ | ⟨some_letter, new⟩
    · rw [stays, List.getLast?_concat] at ends
      exact .inr (List.getLast?_concat.trans ends)
    · rw [List.getLast?_append_of_ne_nil _ some_letter] at ends
      exact .inl (new c (List.mem_of_getLast? ends))

end HoldoutLine
