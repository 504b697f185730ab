import HoldoutLine.Proofs.Report.FixedPlaces
import HoldoutLine.Report.Text

/-! # What the text layouts show of the predictions

A layout is a text, and its lines are read off at the line feeds. Numbers are written without blanks and line feeds,
whatever they are, so each line that is written of numbers is read as one line, and a row of the table of predictions is
read back as its four cells (`wordsOf_predictionRow`). A column name may hold line feeds; of the lines that the number
of predictions to be shown has a say in, only the headings of the table hold one.

`Report.renderText_shows_first` puts this together: the detailed text ends with the table of the first predictions, the
brief text has the list of them in the fifth line from the end, both tell how many they are, and nothing before that
depends on how many were asked for.
-/

namespace HoldoutLine

/-- The lines of a text: what stands before each line feed. -/
def linesOf (text : String) : List String := (text.toList.splitOn '\n').dropLast.map String.ofList

/-- The words of a text: what stands between blanks. -/
def wordsOf (text : String) : List String := ((text.toList.splitOn ' ').filter (· ≠ [])).map String.ofList

namespace Report

section Lines

variable {lines : List String}

private theorem joinLines_cons (line : String) (rest : List String) :
    joinLines (line :: rest) = line ++ "\n" ++ joinLines rest := String.join_cons

private theorem joinLines_append (before after : List String) :
    joinLines (before ++ after) = joinLines before ++ joinLines after := by
  rw [joinLines, List.map_append, String.join_append]
  rfl

private theorem splitOn_joinLines (lines : List String) :
    (joinLines lines).toList.splitOn '\n' = lines.flatMap (fun line => line.toList.splitOn '\n') ++ [[]] := by
  induction lines with
  | nil => rfl
  | cons line rest ih =>
    have ended : (joinLines (line :: rest)).toList = line.toList ++ '\n' :: (joinLines rest).toList := by
      rw [joinLines_cons, String.toList_append, String.toList_append, List.append_assoc]
      rfl
    rw [ended, List.splitOn_append_cons_self, ih, List.flatMap_cons, List.append_assoc]

/-- A line that holds line feeds is read as several. -/
theorem linesOf_joinLines_eq (lines : List String) :
    linesOf (joinLines lines) =
      (lines.flatMap fun line => line.toList.splitOn '\n').map String.ofList := by
  rw [linesOf, splitOn_joinLines, List.dropLast_concat]

private theorem linesOf_joinLines_append (before after : List String) :
    linesOf (joinLines (before ++ after)) = linesOf (joinLines before) ++ linesOf (joinLines after) := by
  simp only [linesOf_joinLines_eq, List.flatMap_append, List.map_append]

/-- Lines without line feeds are read as they were. -/
theorem linesOf_joinLines (plain : ∀ line ∈ lines, '\n' ∉ line.toList) : linesOf (joinLines lines) = lines := by
  rw [linesOf_joinLines_eq]
  induction lines with
  | nil => rfl
  | cons line rest ih =>
    obtain ⟨first, others⟩ := List.forall_mem_cons.mp plain
    rw [List.flatMap_cons, List.map_append, ih others, List.splitOn_eq_singleton first, List.map_singleton,
      String.ofList_toList]
    rfl

end Lines

end Report

section Cells

/-- A text that is read as one word. -/
structure IsCell (text : String) : Prop where
  present : text.toList ≠ []
  solid : ∀ c ∈ text.toList, c ≠ ' ' ∧ c ≠ '\n'

variable {cell : String}

theorem IsCell.plain (isCell : IsCell cell) : '\n' ∉ cell.toList := fun member => (isCell.solid _ member).2 rfl

private theorem wordsOf_append_blank (before after : String) :
    wordsOf (before ++ " " ++ after) = wordsOf before ++ wordsOf after := by
  have parted : (before ++ " " ++ after).toList = before.toList ++ ' ' :: after.toList := by
    rw [String.toList_append, String.toList_append, List.append_assoc]
    rfl
  rw [wordsOf, parted, List.splitOn_append_cons_self, List.filter_append, List.map_append]
  rfl

private theorem IsCell.wordsOf_eq (isCell : IsCell cell) : wordsOf cell = [cell] := by
  have whole : cell.toList.splitOn ' ' = [cell.toList] :=
    List.splitOn_eq_singleton fun member => (isCell.solid _ member).1 rfl
  simp [wordsOf, whole, isCell.present]

private theorem wordsOf_blanks (count : Nat) : wordsOf (String.ofList (List.replicate count ' ')) = [] := by
  induction count with
  | zero => rfl
  | succ count ih =>
    have one : String.ofList (List.replicate (count + 1) ' ') =
        "" ++ " " ++ String.ofList (List.replicate count ' ') := by
      rw [List.replicate_succ, String.ofList_cons]
      rfl
    rw [one, wordsOf_append_blank, ih]
    rfl

/-- Filling a cell with blanks leaves its word. -/
theorem IsCell.wordsOf_alignLeft (isCell : IsCell cell) (width : Nat) : wordsOf (alignLeft width cell) = [cell] := by
  rw [alignLeft, filler]
  cases width - cell.length with
  | zero => simpa using isCell.wordsOf_eq
  | succ count =>
    have one : cell ++ String.ofList (List.replicate (count + 1) ' ') =
        cell ++ " " ++ String.ofList (List.replicate count ' ') := by
      rw [List.replicate_succ, String.ofList_cons, String.append_assoc]
      rfl
    rw [one, wordsOf_append_blank, isCell.wordsOf_eq, wordsOf_blanks, List.append_nil]

end Cells

section Numbers

open Numeral

private theorem solid_of_isDigits {digits : List Char} (numbered : IsDigits digits) :
    ∀ c ∈ digits, c ≠ ' ' ∧ c ≠ '\n' := by
  intro c member
  have digit := numbered c member
  constructor
  · rintro rfl
    cases digit
  · rintro rfl
    cases digit

private theorem isCell_repr (n : Nat) : IsCell (toString n) where
  present := by
    rw [Nat.toString_eq_repr, Nat.toList_repr]
    exact Nat.toDigits_ne_nil
  solid := by
    rw [Nat.toString_eq_repr, Nat.toList_repr]
    exact solid_of_isDigits (Json.isDigits_toDigits n)

private theorem solid_signText (negative : Bool) : ∀ c ∈ Binary64.signText negative, c ≠ ' ' ∧ c ≠ '\n' := by
  cases negative <;> simp [Binary64.signText]

private theorem IsCell.of_shows {places : Nat} {x : Float} {text : String}
    (shows : ShowsFixed places text.toList x) : IsCell text := by
  generalize chars : text.toList = shown at shows
  suffices cell : shown ≠ [] ∧ ∀ c ∈ shown, c ≠ ' ' ∧ c ≠ '\n' from ⟨chars ▸ cell.1, chars ▸ cell.2⟩
  cases shows with
  | notANumber => simp
  | infinite =>
    refine ⟨List.append_ne_nil_of_right_ne_nil _ (List.cons_ne_nil _ _), fun c member => ?_⟩
    exact (List.mem_append.mp member).elim (solid_signText _ c) fun behind => by
      simp only [List.mem_cons, List.not_mem_nil, or_false] at behind
      rcases behind with rfl | rfl | rfl <;> decide
  | finite exact left right =>
    refine ⟨List.append_ne_nil_of_right_ne_nil _ (List.append_ne_nil_of_left_ne_nil left.some _), fun c member => ?_⟩
    rcases List.mem_append.mp member with sign | number
    · exact solid_signText _ c sign
    · rcases List.mem_append.mp number with before | behind
      · exact solid_of_isDigits left.numbered c before
      · split_ifs at behind with noPlaces
        · cases behind
        · rcases List.mem_cons.mp behind with rfl | digit
          · decide
          · exact solid_of_isDigits right c digit

/-- A number with fixed places is one word, and so are the words for what is no number. -/
theorem isCell_fixedText (places : Nat) (x : Float) : IsCell (fixedText places x) :=
  .of_shows (showsFixed_fixedText places x)

end Numbers

namespace Report

section Rows

/-- A row of the table is read back as its four cells, which show the numbers of the prediction: the first two without
decimal places and the others with two (`showsFixed_fixedText`). -/
theorem wordsOf_predictionRow (prediction : Prediction) :
    wordsOf (predictionRow prediction) =
      [fixedText 0 prediction.predictor, fixedText 0 prediction.actual, fixedText 2 prediction.predicted,
        fixedText 2 prediction.absError] := by
  rw [predictionRow, tableRow]
  simp only [wordsOf_append_blank, (isCell_fixedText _ _).wordsOf_alignLeft]
  rfl

def IsOneLine (text : String) : Prop := '\n' ∉ text.toList

variable {text other : String}

theorem IsOneLine.append (first : IsOneLine text) (second : IsOneLine other) : IsOneLine (text ++ other) := by
  rw [IsOneLine, String.toList_append, List.mem_append]
  exact fun member => member.elim first second

private theorem isOneLine_fixedText (places : Nat) (x : Float) : IsOneLine (fixedText places x) :=
  (isCell_fixedText places x).plain

private theorem isOneLine_toString (n : Nat) : IsOneLine (toString n) := (isCell_repr n).plain

private theorem isOneLine_replicate {c : Char} (other : '\n' ≠ c) (count : Nat) :
    IsOneLine (String.ofList (List.replicate count c)) := by
  rw [IsOneLine, String.toList_ofList]
  exact fun member => other (List.eq_of_mem_replicate member)

theorem IsOneLine.alignLeft (plain : IsOneLine text) (width : Nat) : IsOneLine (alignLeft width text) :=
  plain.append (isOneLine_replicate (by simp) _)

private theorem isOneLine_tableRow {predictor actual predicted error : String} (first : IsOneLine predictor)
    (second : IsOneLine actual) (third : IsOneLine predicted) (fourth : IsOneLine error) :
    IsOneLine (tableRow predictor actual predicted error) := by
  have blank : IsOneLine " " := by simp [IsOneLine]
  exact ((((((first.alignLeft 10).append blank).append (second.alignLeft 12)).append blank).append
    (third.alignLeft 12)).append blank).append (fourth.alignLeft 10)

private theorem isOneLine_predictionRow (prediction : Prediction) : IsOneLine (predictionRow prediction) :=
  isOneLine_tableRow (isOneLine_fixedText _ _) (isOneLine_fixedText _ _) (isOneLine_fixedText _ _)
    (isOneLine_fixedText _ _)

private theorem isOneLine_rSquared (r2 : RSquared) : IsOneLine r2.text := by
  cases r2 with
  | value share => exact isOneLine_fixedText 4 share
  | undefined => simp [RSquared.text, IsOneLine]

private theorem isOneLine_intercalate {separator : String} (plain : IsOneLine separator) {parts : List String}
    (others : ∀ part ∈ parts, IsOneLine part) : IsOneLine (String.intercalate separator parts) := by
  induction parts with
  | nil => simp [IsOneLine]
  | cons part rest ih =>
    obtain ⟨first, tail⟩ := List.forall_mem_cons.mp others
    cases rest with
    | nil => rwa [String.intercalate_singleton]
    | cons next rest =>
      rw [String.intercalate_cons_cons]
      exact (first.append plain).append (ih tail)

end Rows

section Endings

variable (report : Report) (rows shown : Nat)

/-- The lines from the table of predictions on, if so many of the first ones are shown. -/
def tableLines : List String :=
  [s!"Predictions (first {shown}):",
    tableRow report.dataset.predictor "actual" "predicted" "error",
    String.ofList (List.replicate 50 '-')] ++
  (report.assessment.predictions.take shown).map predictionRow ++
  ["", rule, "Pipeline complete", rule]

/-- The list of predictions, if so many of the first ones are shown. -/
def listLine : String :=
  s!"First {shown} predictions: [" ++
    String.intercalate ", " ((report.assessment.predictions.take shown).map fun prediction =>
      fixedText 4 prediction.predicted) ++ "]"

/-- The table counts the predictions before it shows them. -/
theorem detailedLines_eq : report.detailedLines rows =
    report.detailedOpening ++ report.tableLines (min rows report.assessment.predictions.length) := by
  rw [detailedLines, List.append_assoc]
  rfl

/-- The list counts the predictions that it shows. -/
theorem briefLines_eq : report.briefLines rows =
    report.briefOpening ++
      (report.listLine (min rows report.assessment.predictions.length) :: measureLines report.assessment) := by
  have count : (report.assessment.predictions.take rows).length = min rows report.assessment.predictions.length :=
    List.length_take
  have same : report.assessment.predictions.take rows =
      report.assessment.predictions.take (min rows report.assessment.predictions.length) := by
    rw [List.take_eq_take_iff]
    omega
  rw [briefLines, List.append_assoc, predictionList, count, same]
  rfl

private theorem isOneLine_tableLines (plain : IsOneLine report.dataset.predictor) :
    ∀ line ∈ report.tableLines shown, IsOneLine line := by
  have title : IsOneLine s!"Predictions (first {shown}):" := by
    have before : IsOneLine "Predictions (first " := by simp [IsOneLine]
    have behind : IsOneLine "):" := by simp [IsOneLine]
    exact (before.append (isOneLine_toString shown)).append behind
  have heading : IsOneLine (tableRow report.dataset.predictor "actual" "predicted" "error") :=
    isOneLine_tableRow plain (by simp [IsOneLine]) (by simp [IsOneLine]) (by simp [IsOneLine])
  have closing : IsOneLine rule := isOneLine_replicate (by simp) 50
  intro line member
  simp only [tableLines, List.mem_append, List.mem_cons, List.not_mem_nil, or_false, List.mem_map] at member
  rcases member with ((rfl | rfl | rfl) | ⟨prediction, -, rfl⟩) | rfl | rfl | rfl | rfl
  · exact title
  · exact heading
  · exact isOneLine_replicate (by simp) 50
  · exact isOneLine_predictionRow prediction
  · simp [IsOneLine]
  · exact closing
  · simp [IsOneLine]
  · exact closing

private theorem isOneLine_listLine : IsOneLine (report.listLine shown) := by
  have first : IsOneLine "First " := by simp [IsOneLine]
  have title : IsOneLine " predictions: [" := by simp [IsOneLine]
  have comma : IsOneLine ", " := by simp [IsOneLine]
  have close : IsOneLine "]" := by simp [IsOneLine]
  have values : IsOneLine (String.intercalate ", " ((report.assessment.predictions.take shown).map
      fun prediction => fixedText 4 prediction.predicted)) :=
    isOneLine_intercalate comma (List.forall_mem_map.mpr fun _ _ => isOneLine_fixedText _ _)
  exact (((first.append (isOneLine_toString shown)).append title).append values).append close

private theorem isOneLine_measureLines (assessment : Assessment) :
    ∀ line ∈ measureLines assessment, IsOneLine line := by
  intro line member
  simp only [measureLines, List.mem_cons, List.not_mem_nil, or_false] at member
  rcases member with rfl | rfl | rfl | rfl
  · exact IsOneLine.append (by simp [IsOneLine]) (isOneLine_fixedText _ _)
  · exact IsOneLine.append (by simp [IsOneLine]) (isOneLine_fixedText _ _)
  · exact IsOneLine.append (by simp [IsOneLine]) (isOneLine_fixedText _ _)
  · exact IsOneLine.append (by simp [IsOneLine]) (isOneLine_rSquared _)

/-- Asking for more predictions than there are is asking for all of them. -/
theorem renderText_min (style : ReportStyle) :
    report.renderText style (min rows report.assessment.predictions.length) = report.renderText style rows := by
  have twice : min (min rows report.assessment.predictions.length) report.assessment.predictions.length =
      min rows report.assessment.predictions.length := by omega
  cases style with
  | detailed => rw [renderText, renderText, textLines, textLines, detailedLines_eq, detailedLines_eq, twice]
  | brief => rw [renderText, renderText, textLines, textLines, briefLines_eq, briefLines_eq, twice]

end Endings

section Blocks

private theorem headRowsFrom_eq (index : Nat) (rows : List Observation) :
    headRowsFrom index rows = rows.mapIdx fun place row =>
      headRow (toString (index + place)) (NumberLayout.report.text row.predictor)
        (NumberLayout.report.text row.target) := by
  induction rows generalizing index with
  | nil => rfl
  | cons row rest ih =>
    rw [headRowsFrom, ih, List.mapIdx_cons]
    simp only [Nat.add_zero, Nat.add_assoc, Nat.add_comm 1]

/-- The lines of the dataset block after its first one and before the rows. -/
def datasetHeadings (dataset : DatasetSummary) : List String :=
  ["Columns: [\"" ++ dataset.predictor ++ "\", \"" ++ dataset.target ++ "\"]",
    "",
    s!"First {dataset.head.length} rows:",
    headRow "" dataset.predictor dataset.target]

/-- The dataset block, from its first line to the last of the first rows. -/
def datasetBlock (dataset : DatasetSummary) : String :=
  joinLines (s!"Data loaded: ({dataset.shape.1}, {dataset.shape.2})" ::
    (datasetHeadings dataset ++ dataset.head.mapIdx fun place row =>
      headRow (toString place) (NumberLayout.report.text row.predictor) (NumberLayout.report.text row.target)))

private theorem joinLines_datasetLines (dataset : DatasetSummary) :
    joinLines (datasetLines dataset) = datasetBlock dataset := by
  rw [datasetLines, headRowsFrom_eq, datasetBlock]
  simp only [Nat.zero_add]
  rfl

private theorem detailedOpening_eq (report : Report) : ∃ banner rest,
    joinLines report.detailedOpening = banner ++ datasetBlock report.dataset ++ rest := by
  obtain ⟨banner, rest, parted⟩ : ∃ banner rest,
      report.detailedOpening = banner ++ datasetLines report.dataset ++ rest := by
    rw [detailedOpening, List.append_assoc, List.append_assoc]
    exact ⟨_, _, rfl⟩
  refine ⟨joinLines banner, joinLines rest, ?_⟩
  rw [parted, joinLines_append, joinLines_append, joinLines_datasetLines]

private theorem briefOpening_eq (report : Report) : ∃ rest,
    joinLines report.briefOpening = datasetBlock report.dataset ++ rest := by
  obtain ⟨rest, parted⟩ : ∃ rest, report.briefOpening = datasetLines report.dataset ++ rest := ⟨_, rfl⟩
  refine ⟨joinLines rest, ?_⟩
  rw [parted, joinLines_append, joinLines_datasetLines]

end Blocks

/-- However many predictions are asked for, the detailed text ends with the table of the first ones and the brief text
has the list of them in the fifth line from the end; all of them are shown if more are asked for. The texts around the
table and the list do not depend on it. Both texts have the dataset block, the brief one at its beginning, and a row of
the table is read as the four numbers of its prediction, as far as `ShowsFixed` shows them. The headings of the table
are one line if the predictor's name is. -/
theorem renderText_shows_first (report : Report) :
    ∃ beforeTable beforeList afterList : String,
      (∀ rows, let shown := min rows report.assessment.predictions.length
        report.renderText .detailed rows = beforeTable ++ joinLines (report.tableLines shown) ∧
        report.renderText .brief rows = beforeList ++ joinLines [report.listLine shown] ++ afterList ∧
        (IsOneLine report.dataset.predictor →
          linesOf (report.renderText .detailed rows) = linesOf beforeTable ++ report.tableLines shown) ∧
        linesOf (report.renderText .brief rows) = linesOf beforeList ++ [report.listLine shown] ++ linesOf afterList ∧
        (report.assessment.predictions.take shown).length = shown ∧
        ∀ style, report.renderText style shown = report.renderText style rows) ∧
      (linesOf afterList).length = 4 ∧
      (∀ prediction, wordsOf (predictionRow prediction) =
        [fixedText 0 prediction.predictor, fixedText 0 prediction.actual, fixedText 2 prediction.predicted,
          fixedText 2 prediction.absError]) ∧
      (∃ banner rest, beforeTable = banner ++ datasetBlock report.dataset ++ rest) ∧
      ∃ rest, beforeList = datasetBlock report.dataset ++ rest := by
  refine ⟨joinLines report.detailedOpening, joinLines report.briefOpening, joinLines (measureLines report.assessment),
    fun rows => ?_, ?_, wordsOf_predictionRow, report.detailedOpening_eq, report.briefOpening_eq⟩
  · have measures := linesOf_joinLines (isOneLine_measureLines report.assessment)
    have listed := List.forall_mem_cons.mpr ⟨report.isOneLine_listLine (min rows report.assessment.predictions.length),
      isOneLine_measureLines report.assessment⟩
    refine ⟨?_, ?_, fun plain => ?_, ?_, ?_, report.renderText_min rows⟩
    · rw [renderText, textLines, detailedLines_eq, joinLines_append]
    · rw [renderText, textLines, briefLines_eq, ← List.singleton_append, joinLines_append, joinLines_append,
        String.append_assoc]
    · rw [renderText, textLines, detailedLines_eq, linesOf_joinLines_append,
        linesOf_joinLines (report.isOneLine_tableLines _ plain)]
    · rw [renderText, textLines, briefLines_eq, linesOf_joinLines_append, linesOf_joinLines listed, measures,
        List.append_assoc]
      rfl
    · exact List.length_take_of_le (Nat.min_le_right _ _)
  · rw [linesOf_joinLines (isOneLine_measureLines report.assessment)]
    rfl

end Report

end HoldoutLine
