import HoldoutLine.Dataset.Basic
import HoldoutLine.Dataset.ColumnName
import HoldoutLine.Decimal.Numeral
import HoldoutLine.Log
import HoldoutLine.Table.Feed
import HoldoutLine.Text.Utf8

/-! # Datasets from tables

The first record of a table names the two columns; every other record is a row of two numerals. Records
are judged in order and the first defect is the answer: bytes that are no text, then the number of
fields, then the predictor, then the target. A failure of the source counts only after all records that
were complete before it.
-/

namespace HoldoutLine

namespace Table.Record

/-- The fields from the `index`-th on as texts. -/
def textsFrom (record : Record) (index : Nat) : List (List UInt8) → Except DatasetError (List String)
  | [] => .ok []
  | field :: rest =>
    match Utf8.decode ⟨field.toArray⟩ with
    | .error validBytes => .error (.invalidText record.number record.start index validBytes)
    | .ok text => (textsFrom record (index + 1) rest).map (text :: ·)

/-- The fields as texts, or the first that is none. -/
def texts (record : Record) : Except DatasetError (List String) := record.textsFrom 0 record.fields

end Table.Record

namespace Dataset

open Table

/-- The number in a cell, blanks around it ignored. -/
def readCell (line : Nat) (cell : String) : Except DatasetError { x : Float // x.isFinite = true } :=
  let trimmed := String.ofList (trimBlanks cell.toList)
  match Numeral.toFloat? trimmed with
  | none => .error (.notNumeric line trimmed)
  | some x => if finite : x.isFinite = true then .ok ⟨x, finite⟩ else .error (.nonFinite line trimmed)

/-- The observation in the cells of a record that starts on the given line. -/
def readCells (line : Nat) : List String → Except DatasetError FiniteObservation
  | [predictorCell, targetCell] => do
    let predictor ← readCell line predictorCell
    let target ← readCell line targetCell
    return ⟨⟨predictor.val, target.val⟩, by simp [Observation.isFinite, predictor.property, target.property]⟩
  | cells => .error (.wrongColumnCount line cells.length)

def readRow (record : Record) : Except DatasetError FiniteObservation := do
  readCells record.start.line (← record.texts)

/-- The column names in the header record; a defect of the header is placed on the first line. -/
def readHeader (record : Record) : Except DatasetError (String × String) := do
  match ← record.texts with
  | [predictorCell, targetCell] => return (cleanName predictorCell, cleanName targetCell)
  | cells => throw (.wrongColumnCount 1 cells.length)

/-- A failure of the source, once every record before it is in order. -/
def checkSource (failure : Option String) : Except DatasetError Unit :=
  match failure with
  | some reason => .error (.readFailed reason)
  | none => .ok ()

/-- The dataset in the records of a table. -/
def ofScanned (scanned : Scanned) : Except DatasetError Dataset :=
  match scanned.records with
  | [] => do
    checkSource scanned.failure
    throw .missingHeader
  | header :: rows => do
    let (predictorName, targetName) ← readHeader header
    let observations ← rows.mapM readRow
    checkSource scanned.failure
    ofFinite predictorName targetName observations

def ofFeed (feed : Feed) : Except DatasetError Dataset := ofScanned feed.scan

/-- The dataset in a source that had to be opened first. -/
def ofOpened (opened : Except String Feed) : Except DatasetError Dataset := do
  ofFeed (← opened.mapError .openFailed)

def ofText (text : String) : Except DatasetError Dataset := ofFeed (Feed.ofText text)

/-- Read a dataset from a source that had to be opened first, and tell how much was read. -/
def load (opened : Except String Feed) : Logged DatasetError Dataset := do
  let dataset ← Logged.ofExcept (ofOpened opened)
  Logged.note .dataset .debug
    s!"parsed {dataset.size} rows ({dataset.predictorName}, {dataset.targetName})"
  return dataset

end Dataset

end HoldoutLine
