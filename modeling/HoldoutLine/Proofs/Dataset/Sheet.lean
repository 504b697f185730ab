import HoldoutLine.Proofs.Table.Written
import HoldoutLine.Dataset.Decode
import HoldoutLine.Proofs.Decimal.Value
import Mathlib.Data.List.Forall2

/-! # Written sheets are read as they are meant

A sheet is what a table says, apart from how it is written: rows of texts, the first of which names the columns.
`Sheet.defect?` says what is wrong with a sheet, by its rows and the grammar of numerals alone, and `Sheet.HeldBy`
which datasets hold what it says: each number is the double nearest to the one that is written. `judged_of_written`
says that reading a sheet back comes to the same, whatever quotes, line ends and empty lines it is written with.
`Judged` follows the reader down to the cells.
-/

namespace HoldoutLine

inductive SheetDefect where
  | columnCount (found : Nat)
  | notNumeric (value : String)
  | nonFinite (value : String)
  | noRows
  deriving DecidableEq, Repr

/-- The error that reports a defect, with the line on which the defect is placed. -/
def SheetDefect.shownAt (line : Nat) : SheetDefect → DatasetError
  | .columnCount found => .wrongColumnCount line found
  | .notNumeric value => .notNumeric line value
  | .nonFinite value => .nonFinite line value
  | .noRows => .noRows

/-- Rows of cells: the header and the rows below it. -/
structure Sheet where
  header : List (List Char)
  rows : List (List (List Char))
  deriving DecidableEq, Repr

namespace Sheet

/-- What a cell shows without the blanks around it. -/
def shown (cell : List Char) : String := String.ofList (trimBlanks cell)

def cellDefect? (cell : List Char) : Option SheetDefect :=
  if ¬ Numeral.IsNumeral (trimBlanks cell) then some (.notNumeric (shown cell))
  else if Numeral.WritesFinite (trimBlanks cell) then none
  else some (.nonFinite (shown cell))

/-- What is wrong with a row: the number of its cells, else the predictor, else the target. -/
def rowDefect? : List (List Char) → Option SheetDefect
  | [predictor, target] => (cellDefect? predictor).or (cellDefect? target)
  | cells => some (.columnCount cells.length)

/-- What is wrong with the header; any two texts are names. -/
def headerDefect? (cells : List (List Char)) : Option SheetDefect :=
  if cells.length = 2 then none else some (.columnCount cells.length)

/-- What is wrong with a sheet: its header, else the first row with a defect, else that there are no rows. -/
def defect? (sheet : Sheet) : Option SheetDefect :=
  (headerDefect? sheet.header).or ((sheet.rows.findSome? rowDefect?).or
    (if sheet.rows = [] then some .noRows else none))

/-- The columns are named by these cells. -/
def NamedBy (cells : List (List Char)) (names : String × String) : Prop :=
  cells.map cleanNameChars = [names.1.toList, names.2.toList]

/-- An observation holds the numbers that the two cells of a row write, without the blanks around them. -/
def RowHeldBy (cells : List (List Char)) (observation : Observation) : Prop :=
  List.Forall₂ Numeral.Writes (cells.map trimBlanks) [observation.predictor, observation.target]

/-- A dataset holds what a sheet says, row by row. -/
structure HeldBy (sheet : Sheet) (dataset : Dataset) : Prop where
  names : NamedBy sheet.header (dataset.predictorName, dataset.targetName)
  rows : List.Forall₂ RowHeldBy sheet.rows dataset.observations

end Sheet

/-- What reading comes to, given what is wrong if anything is: the defect is reported, on whichever line, or a value
is read and is the right one. -/
inductive Judged {α : Type} (defect? : Option SheetDefect) (right : α → Prop) : Except DatasetError α → Prop where
  | refused {defect : SheetDefect} (line : Nat) (wrong : defect? = some defect) :
      Judged defect? right (.error (defect.shownAt line))
  | accepted {value : α} (sound : defect? = none) (holds : right value) : Judged defect? right (.ok value)

namespace Judged

variable {α β γ δ : Type} {defect? later? : Option SheetDefect} {right : α → Prop} {alsoRight : β → Prop}

theorem mono {other : α → Prop} {outcome : Except DatasetError α} (judged : Judged defect? right outcome)
    (weaker : ∀ value, right value → other value) : Judged defect? other outcome := by
  cases judged with
  | refused line wrong => exact .refused line wrong
  | accepted sound holds => exact .accepted sound (weaker _ holds)

/-- What is wrong first decides; then what is read first may be relied on. -/
theorem bind {outcome : Except DatasetError α} {next : α → Except DatasetError β}
    (first : Judged defect? right outcome) (second : ∀ value, right value → Judged later? alsoRight (next value)) :
    Judged (defect?.or later?) alsoRight (outcome >>= next) := by
  cases first with
  | refused line wrong =>
    subst wrong
    exact .refused line rfl
  | accepted sound holds =>
    subst sound
    exact second _ holds

/-- Over a list, the first element with something wrong decides, and otherwise all values are right. -/
theorem mapM {alike : γ → δ → Prop} {wrong : γ → Option SheetDefect} {rights : γ → α → Prop}
    {read : δ → Except DatasetError α} {xs : List γ} {ys : List δ} (all : List.Forall₂ alike xs ys)
    (each : ∀ x y, alike x y → Judged (wrong x) (rights x) (read y)) :
    Judged (xs.findSome? wrong) (List.Forall₂ rights xs) (ys.mapM read) := by
  induction all with
  | nil => exact .accepted rfl .nil
  | @cons x y xs ys head tail ih =>
    -- The verdict is split as the reader goes: the element, the rest, and joining them, where nothing can be wrong.
    have split : (x :: xs).findSome? wrong = (wrong x).or ((xs.findSome? wrong).or none) := by
      rw [List.findSome?_cons, Option.or_none]
      cases wrong x <;> rfl
    rw [List.mapM_cons, split]
    refine (each x y head).bind fun value holds => ih.bind fun values hold => ?_
    exact .accepted rfl (.cons holds hold)

end Judged

namespace Dataset

open Table Sheet

section Cells

private theorem judged_readCell (line : Nat) (cell : List Char) :
    Judged (cellDefect? cell) (fun x => Numeral.Writes (trimBlanks cell) x.val)
      (readCell line (String.ofList cell)) := by
  have trimmed : String.ofList (trimBlanks (String.ofList cell).toList) = shown cell := by
    rw [String.toList_ofList, shown]
  have text : (shown cell).toList = trimBlanks cell := String.toList_ofList
  have numeral := Numeral.isSome_toFloat_iff (shown cell)
  have finite := Numeral.writesFinite_iff (trimBlanks cell)
  rw [text] at numeral
  rw [← shown] at finite
  rw [readCell, cellDefect?, trimmed]
  cases read : Numeral.toFloat? (shown cell) with
  | none =>
    rw [read] at numeral
    rw [if_pos (mt numeral.mpr nofun)]
    exact .refused line rfl
  | some x =>
    rw [read] at numeral
    rw [read, Option.any_some] at finite
    rw [if_neg (not_not_intro (numeral.mp rfl))]
    simp only [finite]
    split_ifs with number
    · exact .accepted rfl (text ▸ Numeral.toFloat_eq_some_iff.mp read)
    · exact .refused line rfl

end Cells

section Rows

private theorem rowDefect_of_length {cells : List (List Char)} (several : cells.length ≠ 2) :
    rowDefect? cells = some (.columnCount cells.length) := by
  unfold rowDefect?
  split
  · exact (several rfl).elim
  · rfl

private theorem readCells_of_length {cells : List String} (several : cells.length ≠ 2) (line : Nat) :
    readCells line cells = .error (.wrongColumnCount line cells.length) := by
  unfold readCells
  split
  · exact (several rfl).elim
  · rfl

private theorem judged_readCells (line : Nat) (cells : List (List Char)) :
    Judged (rowDefect? cells) (fun row => RowHeldBy cells row.val) (readCells line (cells.map String.ofList)) := by
  by_cases two : cells.length = 2
  · obtain ⟨predictor, target, rfl⟩ := List.length_eq_two.mp two
    rw [rowDefect?, ← Option.or_none (o := cellDefect? target)]
    refine (judged_readCell line predictor).bind fun x left => (judged_readCell line target).bind fun y right => ?_
    exact .accepted rfl (.cons left (.cons right .nil))
  · rw [rowDefect_of_length two, readCells_of_length (by rwa [List.length_map]), List.length_map]
    exact .refused line rfl

end Rows

section Records

variable {cells : List (List Char)} {record : Record}

private theorem textsFrom_bytes (record : Record) (index : Nat) (cells : List (List Char)) :
    record.textsFrom index (cells.map Utf8.bytes) = .ok (cells.map String.ofList) := by
  induction cells generalizing index with
  | nil => rfl
  | cons cell rest ih =>
    rw [List.map_cons, Record.textsFrom, Utf8.decode_bytes]
    dsimp only
    rw [ih]
    rfl

/-- The texts of a record are those whose bytes it holds. -/
theorem texts_of_bytes (written : record.fields = cells.map Utf8.bytes) :
    record.texts = .ok (cells.map String.ofList) := by
  rw [Record.texts, written, textsFrom_bytes]

private theorem judged_readRow (written : record.fields = cells.map Utf8.bytes) :
    Judged (rowDefect? cells) (fun row => RowHeldBy cells row.val) (readRow record) := by
  rw [readRow, texts_of_bytes written]
  exact judged_readCells record.start.line cells

private theorem judged_readHeader (written : record.fields = cells.map Utf8.bytes) :
    Judged (headerDefect? cells) (NamedBy cells) (readHeader record) := by
  rw [readHeader, texts_of_bytes written, headerDefect?]
  split_ifs with two
  · obtain ⟨predictor, target, rfl⟩ := List.length_eq_two.mp two
    refine .accepted rfl ?_
    simp only [NamedBy, cleanName, List.map_cons, List.map_nil, String.toList_ofList]
  · dsimp only [bind, Except.bind]
    split
    · next same => exact (two ((List.length_map _).symm.trans (congrArg List.length same))).elim
    · rw [List.length_map]
      exact .refused 1 rfl

/-- All that may be wrong with finite rows is that there are none. -/
theorem judged_ofFinite (names : String × String) (rows : List FiniteObservation) :
    Judged (if rows = [] then some .noRows else none)
      (fun dataset => (dataset.predictorName, dataset.targetName) = names ∧
        dataset.observations = rows.map Subtype.val) (ofFinite names.1 names.2 rows) := by
  unfold ofFinite
  split_ifs with empty
  · exact .refused 1 rfl
  · exact .accepted rfl ⟨rfl, rfl⟩

/-- Reading the records of a sheet comes to what the sheet says. -/
theorem judged_ofScanned {sheet : Sheet} {header : Record} {rows : List Record}
    (first : header.fields = sheet.header.map Utf8.bytes)
    (others : List.Forall₂ (fun cells record => record.fields = cells.map Utf8.bytes) sheet.rows rows) :
    Judged sheet.defect? sheet.HeldBy (ofScanned ⟨header :: rows, none⟩) := by
  refine (judged_readHeader first).bind fun names named => ?_
  refine (Judged.mapM others fun cells record => judged_readRow).bind fun observations held => ?_
  have empty : sheet.rows = [] ↔ observations = [] := by
    rw [← List.length_eq_zero_iff, held.length_eq, List.length_eq_zero_iff]
  simp only [empty]
  refine (judged_ofFinite names observations).mono fun dataset ⟨sameNames, sameRows⟩ => ⟨sameNames ▸ named, ?_⟩
  rw [sameRows, List.forall₂_map_right_iff]
  exact held

end Records

/-- However a sheet is written, save that its text must not begin with a byte order mark, reading it back comes to
what the sheet says. -/
theorem judged_of_written {table : WrittenTable} {header : WrittenRow} {rows : List WrittenRow}
    (valid : table.isValid = true) (split : table.rows = header :: rows)
    (unmarked : table.chars.head? ≠ some '\uFEFF') :
    Judged (Sheet.mk header.texts (rows.map WrittenRow.texts)).defect?
      (Sheet.mk header.texts (rows.map WrittenRow.texts)).HeldBy (ofText table.text) := by
  have bytes : (Feed.ofText table.text).bytes = Utf8.bytes table.chars := by
    rw [Feed.bytes_ofText, WrittenTable.text, String.toList_ofList]
  have scanned := Feed.scan_of_text bytes unmarked rfl
  have records := records_of_written valid 0
  rw [split, List.map_cons] at records
  obtain ⟨first, others, found, firstFields, otherFields⟩ := List.map_eq_cons_iff.mp records
  have rowFields : List.Forall₂ Eq (others.map Record.fields) (rows.map WrittenRow.cells) :=
    otherFields ▸ List.forall₂_refl _
  rw [List.forall₂_map_left_iff, List.forall₂_map_right_iff] at rowFields
  rw [ofText, ofFeed, scanned, found]
  apply judged_ofScanned firstFields
  rw [List.forall₂_map_left_iff]
  exact rowFields.flip

def quotedHeader : WrittenRow where
  fields := [⟨"# say \"x\",\n".toList, true⟩, ⟨"y (max 5)".toList, false⟩]
  lineEnds := [.both, .carriageReturn]

/-- A sound row; one with two defects, of which the predictor's is the first; and one of a single cell. -/
def quotedRows : List WrittenRow :=
  [⟨[⟨" -.5e1 ".toList, false⟩, ⟨"2".toList, true⟩], [.carriageReturn]⟩,
    ⟨[⟨"1,5".toList, true⟩, ⟨"inf".toList, false⟩], [.lineFeed, .lineFeed]⟩,
    ⟨[⟨[], true⟩], []⟩]

/-- A table that is written in every way at once. -/
def quotedTable : WrittenTable := ⟨[.lineFeed, .both], quotedHeader :: quotedRows⟩

/-- It is read back, and the first of its three defects is reported. -/
theorem quotedTable_judged :
    (Sheet.mk quotedHeader.texts (quotedRows.map WrittenRow.texts)).defect? = some (.notNumeric "1,5") ∧
      Judged (Sheet.mk quotedHeader.texts (quotedRows.map WrittenRow.texts)).defect?
        (Sheet.mk quotedHeader.texts (quotedRows.map WrittenRow.texts)).HeldBy (ofText quotedTable.text) :=
  ⟨by decide +kernel, judged_of_written (by decide +kernel) rfl (by decide +kernel)⟩

end Dataset

end HoldoutLine
