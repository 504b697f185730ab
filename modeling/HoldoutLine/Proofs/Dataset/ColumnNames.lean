import HoldoutLine.Proofs.Dataset.Validity
import HoldoutLine.Proofs.Text.Lowercase
import Mathlib.Data.List.DropRight

/-! # Clean column names

Cleaning a header cell cuts, drops, trims, replaces and lowercases, in this order, and no pass brings back what an
earlier one took away: `isColumnName_cleanNameChars`. On such a text no pass finds anything to do, so the names are
the texts that cleaning leaves alone, `cleanNameChars_eq_self_iff`. Which cells give the same name is the subject of
the section on cells; `names_in_normal_form` collects all of it for texts and for the datasets that are read.
-/

namespace HoldoutLine

section Trimming

variable {before text after : List Char}

structure Trimmed (text : List Char) : Prop where
  starts : ∀ c, text.head? = some c → isBlank c = false
  ends : ∀ c, text.getLast? = some c → isBlank c = false

private theorem trimBlanks_eq (text : List Char) :
    trimBlanks text = (text.dropWhile isBlank).rdropWhile isBlank := rfl

private theorem trimmed_trimBlanks (text : List Char) : Trimmed (trimBlanks text) := by
  rw [trimBlanks_eq]
  constructor
  · intro c first
    obtain ⟨kept, split⟩ := List.rdropWhile_prefix isBlank (text.dropWhile isBlank)
    have same : (text.dropWhile isBlank).head? = some c := by
      rw [← split, List.head?_append, first]
      rfl
    have stops := List.head?_dropWhile_not isBlank text
    rw [same] at stops
    exact stops
  · intro c final
    have shown : (text.dropWhile isBlank).rdropWhile isBlank ≠ [] := by
      intro nothing
      rw [nothing] at final
      cases final
    have stops := List.rdropWhile_last_not isBlank (text.dropWhile isBlank) shown
    rw [List.getLast?_eq_some_getLast shown, Option.some_inj] at final
    rw [final] at stops
    exact Bool.eq_false_of_not_eq_true stops

private theorem trimBlanks_of_trimmed (trimmed : Trimmed text) : trimBlanks text = text := by
  have left : text.dropWhile isBlank = text := by
    cases text with
    | nil => rfl
    | cons c rest => exact List.dropWhile_cons_of_neg (Bool.not_eq_true _ ▸ trimmed.starts c rfl)
  rw [trimBlanks_eq, left, List.rdropWhile_eq_self_iff]
  intro shown
  rw [trimmed.ends _ (List.getLast?_eq_some_getLast shown)]
  exact Bool.false_ne_true

/-- Blanks around a text are trimmed off. -/
theorem trimBlanks_between (left : ∀ c ∈ before, isBlank c = true) (right : ∀ c ∈ after, isBlank c = true) :
    trimBlanks (before ++ text ++ after) = trimBlanks text := by
  rw [trimBlanks, trimBlanks, List.append_assoc, List.dropWhile_append_of_pos left, List.dropWhile_append]
  split
  · next nothing =>
    rw [List.isEmpty_iff.mp nothing, List.dropWhile_eq_nil_iff.mpr right]
  · rw [List.reverse_append, List.dropWhile_append_of_pos (by simpa using right)]

private theorem mem_of_mem_trimBlanks {c : Char} (member : c ∈ trimBlanks text) : c ∈ text :=
  (List.dropWhile_suffix isBlank).subset ((List.rdropWhile_prefix isBlank _).subset member)

/-- Lowercasing puts no blank at an end. -/
theorem Trimmed.lowercase (trimmed : Trimmed text) : Trimmed (lowercase text) where
  starts c first := (head_lowercase first).elim IsNewLetter.solid (trimmed.starts c)
  ends c last := (getLast_lowercase last).elim IsNewLetter.solid (trimmed.ends c)

/-- A space inside a name becomes an underscore. -/
def underscored (c : Char) : Char := if c = ' ' then '_' else c

private theorem underscored_of_solid {c : Char} (solid : isBlank c = false) : underscored c = c := by
  refine if_neg ?_
  rintro rfl
  exact absurd solid (by decide)

private theorem Trimmed.underscored (trimmed : Trimmed text) : Trimmed (text.map underscored) := by
  constructor
  · intro c first
    rw [List.head?_map, Option.map_eq_some_iff] at first
    obtain ⟨d, there, rfl⟩ := first
    have solid := trimmed.starts d there
    rw [underscored_of_solid solid, solid]
  · intro c last
    rw [List.getLast?_map, Option.map_eq_some_iff] at last
    obtain ⟨d, there, rfl⟩ := last
    have solid := trimmed.ends d there
    rw [underscored_of_solid solid, solid]

end Trimming

section Names

variable {c : Char} {cell name : List Char}

/-- What is left of a cell without its remark and its number signs. -/
def remarkless (cell : List Char) : List Char := (cell.takeWhile (· ≠ '(')).filter (· ≠ '#')

private theorem cleanNameChars_eq (cell : List Char) :
    cleanNameChars cell = lowercase ((trimBlanks (remarkless cell)).map underscored) := rfl

/-- Without opening parentheses and number signs, all of a text is left. -/
theorem remarkless_of_plain {text : List Char} (plain : ∀ c ∈ text, c ≠ '(' ∧ c ≠ '#') : remarkless text = text := by
  rw [remarkless, List.takeWhile_eq_self_iff.mpr, List.filter_eq_self]
  · exact fun c member => decide_eq_true (plain c member).2
  · exact fun c member => decide_eq_true (plain c member).1

/-- A character that stands in a name: no opening parenthesis, number sign or space, and no capital. -/
structure IsNameChar (c : Char) : Prop where
  noRemark : c ≠ '('
  noSign : c ≠ '#'
  noSpace : c ≠ ' '
  small : IsSmall c

structure IsColumnName (name : List Char) : Prop where
  chars : ∀ c ∈ name, IsNameChar c
  trimmed : Trimmed name

private theorem IsNewLetter.isNameChar (new : IsNewLetter c) : IsNameChar c := by
  have beyond := new.beyondSigns
  refine ⟨?_, ?_, ?_, new.small⟩ <;> rintro rfl <;> exact absurd beyond (by decide)

/-- Of a cell, lowercasing sees neither parentheses nor number signs nor spaces. -/
theorem isNameChar_of_mem_cell (member : c ∈ (trimBlanks (remarkless cell)).map underscored) (small : IsSmall c) :
    IsNameChar c := by
  obtain ⟨d, inside, rfl⟩ := List.mem_map.mp member
  obtain ⟨taken, sign⟩ := List.mem_filter.mp (mem_of_mem_trimBlanks inside)
  have remark := List.mem_takeWhile_imp taken
  simp only [decide_eq_true_eq] at sign remark
  unfold underscored at small ⊢
  split
  · exact ⟨by decide, by decide, by decide, by decide +kernel⟩
  · next space =>
    rw [if_neg space] at small
    exact ⟨remark, sign, space, small⟩

/-- What a cell names is in normal form. -/
theorem isColumnName_cleanNameChars (cell : List Char) : IsColumnName (cleanNameChars cell) := by
  rw [cleanNameChars_eq]
  refine ⟨?_, (trimmed_trimBlanks _).underscored.lowercase⟩
  intro c member
  rcases mem_lowercaseAfter member with new | ⟨small, there⟩
  · exact new.isNameChar
  · exact isNameChar_of_mem_cell there small

/-- On a name in normal form, no pass finds anything to do. -/
theorem cleanNameChars_of_isColumnName (normal : IsColumnName name) : cleanNameChars name = name := by
  have uncut : remarkless name = name :=
    remarkless_of_plain fun c member => ⟨(normal.chars c member).noRemark, (normal.chars c member).noSign⟩
  have spaceless : name.map underscored = name :=
    (List.map_congr_left fun c member => if_neg (normal.chars c member).noSpace).trans (List.map_id' name)
  rw [cleanNameChars_eq, uncut, trimBlanks_of_trimmed normal.trimmed, spaceless]
  exact lowercase_of_isSmall fun c member => (normal.chars c member).small

/-- The names are the texts that cleaning leaves alone. -/
theorem cleanNameChars_eq_self_iff : cleanNameChars name = name ↔ IsColumnName name := by
  constructor
  · intro same
    rw [← same]
    exact isColumnName_cleanNameChars name
  · exact cleanNameChars_of_isColumnName

end Names

section Cells

variable {before cell other after : List Char}

/-- What follows an opening parenthesis is cut off. -/
theorem remarkless_append (cell after : List Char) :
    remarkless (cell ++ after) = remarkless cell ++ if '(' ∈ cell then [] else remarkless after := by
  by_cases opened : '(' ∈ cell
  · have short : ¬ (cell.takeWhile (· ≠ '(')).length = cell.length := by
      intro whole
      have plain := List.takeWhile_eq_self_iff.mp ((List.takeWhile_prefix _).eq_of_length whole) '(' opened
      exact absurd plain (by decide)
    rw [remarkless, List.takeWhile_append, if_neg short, if_pos opened, List.append_nil, remarkless]
  · have plain : ∀ c ∈ cell, decide (c ≠ '(') = true := by
      intro c member
      refine decide_eq_true ?_
      rintro rfl
      exact opened member
    rw [remarkless, List.takeWhile_append_of_pos plain, List.filter_append, if_neg opened, remarkless,
      List.takeWhile_eq_self_iff.mpr plain, remarkless]

/-- A remark says nothing about the name. -/
theorem cleanNameChars_remark (cell remark : List Char) :
    cleanNameChars (cell ++ '(' :: remark) = cleanNameChars cell := by
  have nothing : remarkless ('(' :: remark) = [] := rfl
  rw [cleanNameChars_eq, remarkless_append, nothing, ite_self, List.append_nil, cleanNameChars_eq]

/-- Number signs may be dropped before the remark is cut off. -/
theorem remarkless_eq (cell : List Char) : remarkless cell = (cell.filter (· ≠ '#')).takeWhile (· ≠ '(') := by
  rw [List.takeWhile_filter, remarkless]
  congr 2
  funext c
  by_cases sign : c = '#'
  · subst sign
    decide
  · simp [sign]

/-- Cells that differ in number signs only give one name. -/
theorem cleanNameChars_of_signless (same : cell.filter (· ≠ '#') = other.filter (· ≠ '#')) :
    cleanNameChars cell = cleanNameChars other := by
  rw [cleanNameChars_eq, cleanNameChars_eq, remarkless_eq, remarkless_eq, same]

private theorem remarkless_of_blank {blanks : List Char} (blank : ∀ c ∈ blanks, isBlank c = true) :
    remarkless blanks = blanks := by
  apply remarkless_of_plain
  intro c member
  constructor <;> rintro rfl <;> exact absurd (blank _ member) (by decide)

/-- Blanks around a cell say nothing about the name, also if those after it belong to the remark. -/
theorem cleanNameChars_between (left : ∀ c ∈ before, isBlank c = true) (right : ∀ c ∈ after, isBlank c = true) :
    cleanNameChars (before ++ cell ++ after) = cleanNameChars cell := by
  have unopened : '(' ∉ before := by
    intro member
    exact absurd (left '(' member) (by decide)
  have parted : remarkless (before ++ cell ++ after) =
      before ++ remarkless cell ++ if '(' ∈ before ++ cell then [] else after := by
    rw [remarkless_append, remarkless_append, if_neg unopened, remarkless_of_blank left, remarkless_of_blank right]
  rw [cleanNameChars_eq, parted, trimBlanks_between left, ← cleanNameChars_eq]
  split
  · exact fun c member => absurd member List.not_mem_nil
  · exact right

end Cells

section Texts

private theorem isColumnName_cleanName (raw : String) : IsColumnName (cleanName raw).toList := by
  rw [cleanName, String.toList_ofList]
  exact isColumnName_cleanNameChars raw.toList

private theorem cleanName_eq_self_iff {name : String} : cleanName name = name ↔ IsColumnName name.toList := by
  rw [← cleanNameChars_eq_self_iff, ← String.toList_inj, cleanName, String.toList_ofList]

/-- The columns of a dataset that holds what a sheet says have names in normal form. -/
theorem isColumnName_of_namedBy {cells : List (List Char)} {names : String × String}
    (named : Sheet.NamedBy cells names) : IsColumnName names.1.toList ∧ IsColumnName names.2.toList := by
  have normal : ∀ name ∈ [names.1.toList, names.2.toList], IsColumnName name := by
    intro name member
    rw [← named] at member
    obtain ⟨cell, -, rfl⟩ := List.mem_map.mp member
    exact isColumnName_cleanNameChars cell
  rw [List.forall_mem_cons, List.forall_mem_singleton] at normal
  exact normal

/-- Column names have a normal form. Cleaning reaches it and leaves it alone, and leaves nothing else alone; remarks,
number signs and blanks at the ends do not matter to it; and the names of every dataset that is read are in it. -/
theorem names_in_normal_form :
    (∀ raw, IsColumnName (cleanName raw).toList ∧ cleanName (cleanName raw) = cleanName raw) ∧
    (∀ name, cleanName name = name ↔ IsColumnName name.toList) ∧
    (∀ raw remark : String, cleanName (raw ++ "(" ++ remark) = cleanName raw) ∧
    (∀ raw other : String, raw.toList.filter (· ≠ '#') = other.toList.filter (· ≠ '#') →
      cleanName raw = cleanName other) ∧
    (∀ before raw after : String, (∀ c ∈ before.toList, isBlank c = true) → (∀ c ∈ after.toList, isBlank c = true) →
      cleanName (before ++ raw ++ after) = cleanName raw) ∧
    (∀ (feed : Table.Feed) (dataset : Dataset), Dataset.ofFeed feed = .ok dataset →
      IsColumnName dataset.predictorName.toList ∧ IsColumnName dataset.targetName.toList) := by
  refine ⟨?reached, fun _ => cleanName_eq_self_iff, ?remarks, ?signs, ?blanks, ?datasets⟩
  case reached =>
    intro raw
    have normal := isColumnName_cleanName raw
    exact ⟨normal, cleanName_eq_self_iff.mpr normal⟩
  case remarks =>
    intro raw remark
    have opens : (raw ++ "(" ++ remark).toList = raw.toList ++ '(' :: remark.toList := by
      rw [String.toList_append, String.toList_append, List.append_assoc]
      rfl
    rw [cleanName, opens, cleanNameChars_remark, cleanName]
  case signs =>
    intro raw other same
    rw [cleanName, cleanName, cleanNameChars_of_signless same]
  case blanks =>
    intro before raw after left right
    rw [cleanName, String.toList_append, String.toList_append, cleanNameChars_between left right, cleanName]
  case datasets =>
    intro feed dataset read
    obtain ⟨sheet, -, held⟩ := (Dataset.ofFeed_eq_ok_iff.mp read).held
    exact isColumnName_of_namedBy held.names

/-- A table whose header has a dotted capital I, a sigma that ends a word and one that does not. -/
def capitalTable : Table.Feed := .ofText "# ΟΔΟΣ İ (max 5),\u00A0Mid#Term\tΣ\u3000\n1,2\n"

theorem capitalTable_in_normal_form :
    cleanName (cleanName "# ΟΔΟΣ İ (max 5)") = cleanName "# ΟΔΟΣ İ (max 5)" ∧
      cleanName "# ΟΔΟΣ İ (max 5)" = cleanName "# ΟΔΟΣ İ " ∧ cleanName "#Mid#Term" = cleanName "MidTerm" ∧
      cleanName "\t# Midterm\n" = cleanName "# Midterm" ∧
      ∃ dataset, Dataset.ofFeed capitalTable = .ok dataset ∧
        (dataset.predictorName, dataset.targetName) = ("οδος_i\u0307", "midterm\tσ") ∧
        IsColumnName dataset.predictorName.toList ∧ IsColumnName dataset.targetName.toList := by
  have named : (Dataset.ofFeed capitalTable).toOption.map (fun dataset => (dataset.predictorName, dataset.targetName)) =
      some ("οδος_i\u0307", "midterm\tσ") := by decide +kernel
  obtain ⟨dataset, read, names⟩ := Option.map_eq_some_iff.mp named
  have accepted : Dataset.ofFeed capitalTable = .ok dataset := by
    revert read
    cases Dataset.ofFeed capitalTable with
    | error => exact nofun
    | ok => exact fun same => congrArg Except.ok (Option.some_inj.mp same)
  obtain ⟨reached, -, remarks, signs, blanks, datasets⟩ := names_in_normal_form
  exact ⟨(reached _).2, remarks "# ΟΔΟΣ İ " "max 5)", signs _ _ (by decide),
    blanks "\t" "# Midterm" "\n" (by simp [isBlank]) (by simp [isBlank]), dataset, accepted, names,
    datasets _ _ accepted⟩

end Texts

end HoldoutLine
