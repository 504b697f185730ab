/-! # Written tables

The ways to write a table of texts: each field with or without quotes, each row ended by a line feed, a
carriage return or both, with empty lines before, between and after the rows. `WrittenTable.isValid`
says which of these texts the scanner is meant to read back: a field without quotes holds nothing that
only quotes can hold, every row has a field and is more than one empty field without quotes, and every
row but the last is ended.
-/

namespace HoldoutLine.Table

inductive LineEnd where
  | lineFeed
  | carriageReturn
  | both
  deriving DecidableEq, Repr

def LineEnd.chars : LineEnd → List Char
  | .lineFeed => ['\n']
  | .carriageReturn => ['\r']
  | .both => ['\r', '\n']

structure WrittenField where
  text : List Char
  inQuotes : Bool
  deriving DecidableEq, Repr

namespace WrittenField

/-- A character that a field can hold in quotes only. -/
def needsQuotes (c : Char) : Bool := c = ',' ∨ c = '"' ∨ c = '\r' ∨ c = '\n'

/-- A quote inside quotes is written twice. -/
def quotedChars (text : List Char) : List Char :=
  text.flatMap fun c => if c = '"' then ['"', '"'] else [c]

def chars (field : WrittenField) : List Char :=
  if field.inQuotes then '"' :: quotedChars field.text ++ ['"'] else field.text

def isValid (field : WrittenField) : Bool := field.inQuotes || !field.text.any needsQuotes

/-- Whether nothing at all is written for the field. -/
def isBlank (field : WrittenField) : Bool := !field.inQuotes && field.text.isEmpty

end WrittenField

/-- A row as it is written, with the line ends after it: its own, and those of empty lines. -/
structure WrittenRow where
  fields : List WrittenField
  lineEnds : List LineEnd
  deriving DecidableEq, Repr

namespace WrittenRow

/-- The fields with commas between them. -/
def fieldChars : List WrittenField → List Char
  | [] => []
  | [field] => field.chars
  | field :: rest => field.chars ++ ',' :: fieldChars rest

def chars (row : WrittenRow) : List Char := fieldChars row.fields ++ row.lineEnds.flatMap LineEnd.chars

/-- Whether the fields may be written that way; a row of one empty field needs quotes. -/
def isValid (row : WrittenRow) : Bool :=
  !row.fields.isEmpty && row.fields.all WrittenField.isValid &&
    !(row.fields.length == 1 && row.fields.all WrittenField.isBlank)

def texts (row : WrittenRow) : List (List Char) := row.fields.map WrittenField.text

end WrittenRow

/-- A table as it is written, with the empty lines before its first row. -/
structure WrittenTable where
  emptyLines : List LineEnd
  rows : List WrittenRow
  deriving DecidableEq, Repr

namespace WrittenTable

def chars (table : WrittenTable) : List Char :=
  table.emptyLines.flatMap LineEnd.chars ++ table.rows.flatMap WrittenRow.chars

/-- Whether the rows may be written that way; only the last may lack its line end. -/
def isValid (table : WrittenTable) : Bool :=
  table.rows.all WrittenRow.isValid && table.rows.dropLast.all fun row => !row.lineEnds.isEmpty

def text (table : WrittenTable) : String := String.ofList table.chars

end WrittenTable

end HoldoutLine.Table
