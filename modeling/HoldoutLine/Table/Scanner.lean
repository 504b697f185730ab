/-! # Scanning a delimited table

A table is bytes: fields separated by commas, records ended by a carriage return, a line feed or both,
and fields in double quotes that may hold any byte, a quote being written twice. `Scanner.step` takes one
byte at a time, so a table may arrive in pieces of any size, and completed records are known before the
bytes after them.

Empty lines between records vanish. Each record is placed at the byte after the one that ended the record
before it: a record that ends in a carriage return and a line feed has ended at the carriage return, and
the line feed counts as an empty line of the next record.
-/

namespace HoldoutLine.Table

def comma : UInt8 := 0x2C
def quote : UInt8 := 0x22
def carriageReturn : UInt8 := 0x0D
def lineFeed : UInt8 := 0x0A

/-- The bytes that end a record outside quotes. -/
def isLineEnd (byte : UInt8) : Bool := byte == carriageReturn || byte == lineFeed

/-- A place in the bytes of a table; lines are counted from one by their line feeds. -/
structure Position where
  offset : Nat
  line : Nat
  deriving DecidableEq, Repr

/-- The place after one more byte. -/
def Position.after (here : Position) (byte : UInt8) : Position :=
  ⟨here.offset + 1, if byte = lineFeed then here.line + 1 else here.line⟩

/-- A record: its number counted from zero, where it starts, and its fields as raw bytes. -/
structure Record where
  number : Nat
  start : Position
  fields : List (List UInt8)
  deriving DecidableEq, Repr

/-- What the bytes read so far have left open. -/
inductive Place where
  | betweenRecords
  | fieldStart
  /-- Inside a field without quotes. -/
  | bare
  /-- Inside quotes. -/
  | quoted
  /-- After a quote inside quotes: the end of the quotes or the first half of a quote. -/
  | quoteSeen
  deriving DecidableEq, Repr

/-- The state of a scan; lists grow at the front, so what came last stands first. -/
structure Scanner where
  place : Place
  /-- The bytes of the field at hand. -/
  field : List UInt8
  /-- The finished fields of the record at hand. -/
  fields : List (List UInt8)
  /-- How many records are finished. -/
  number : Nat
  /-- Where the record at hand starts. -/
  start : Position
  /-- The place after the bytes read so far. -/
  here : Position
  /-- The finished records. -/
  records : List Record

namespace Scanner

/-- Before any byte, or after `skipped` bytes that do not belong to the table. -/
def initial (skipped : Nat) : Scanner :=
  ⟨.betweenRecords, [], [], 0, ⟨0, 1⟩, ⟨skipped, 1⟩, []⟩

/-- One more byte of the field at hand. -/
def push (scanner : Scanner) (place : Place) (byte : UInt8) : Scanner :=
  { scanner with place, field := byte :: scanner.field }

/-- Close the field at hand; another one follows. -/
def endField (scanner : Scanner) : Scanner :=
  { scanner with place := .fieldStart, field := [], fields := scanner.field.reverse :: scanner.fields }

/-- The record at hand, closed with the field at hand. -/
def record (scanner : Scanner) : Record :=
  ⟨scanner.number, scanner.start, (scanner.field.reverse :: scanner.fields).reverse⟩

/-- Close the record at hand; the next one starts here. -/
def endRecord (scanner : Scanner) : Scanner :=
  { scanner with
    place := .betweenRecords
    field := []
    fields := []
    number := scanner.number + 1
    start := scanner.here
    records := scanner.record :: scanner.records }

/-- A byte outside quotes that is content unless it separates or ends. -/
def bareByte (scanner : Scanner) (byte : UInt8) : Scanner :=
  if byte = comma then scanner.endField
  else if isLineEnd byte then scanner.endRecord
  else scanner.push .bare byte

/-- The first byte of a field; only here does a quote open quotes. -/
def firstByte (scanner : Scanner) (byte : UInt8) : Scanner :=
  if byte = quote then { scanner with place := .quoted } else scanner.bareByte byte

def step (scanner : Scanner) (byte : UInt8) : Scanner :=
  let moved := { scanner with here := scanner.here.after byte }
  match scanner.place with
  | .betweenRecords => if isLineEnd byte then moved else moved.firstByte byte
  | .fieldStart => moved.firstByte byte
  | .bare => moved.bareByte byte
  | .quoted => if byte = quote then { moved with place := .quoteSeen } else moved.push .quoted byte
  | .quoteSeen => if byte = quote then moved.push .quoted byte else moved.bareByte byte

def run (scanner : Scanner) (bytes : List UInt8) : Scanner := bytes.foldl step scanner

/-- The records finished so far, in order. -/
def finished (scanner : Scanner) : List Record := scanner.records.reverse

/-- The end of the bytes: a record that is still open ends here. -/
def close (scanner : Scanner) : Scanner :=
  match scanner.place with
  | .betweenRecords => scanner
  | _ => scanner.endRecord

theorem run_append (scanner : Scanner) (before after : List UInt8) :
    scanner.run (before ++ after) = (scanner.run before).run after :=
  List.foldl_append

end Scanner

end HoldoutLine.Table
