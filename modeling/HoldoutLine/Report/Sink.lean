import HoldoutLine.Report.Text

/-! # Writing a report to a sink

A sink takes bytes as long as it has room; a write that does not fit fills it up and fails with the
sink's own reason. A report is written line by line and stops at the first failure.
-/

namespace HoldoutLine

/-- What takes a report: the bytes taken so far, how many more fit, and how it fails when none do. -/
structure Sink where
  taken : ByteArray
  room : Nat
  reason : String

namespace Sink

def ofRoom (room : Nat) (reason : String) : Sink := ⟨ByteArray.empty, room, reason⟩

/-- Write a text; what does not fit is lost, and the reason is told. -/
def write (sink : Sink) (text : String) : Sink × Option String :=
  let bytes := text.toUTF8
  if bytes.size ≤ sink.room then
    ({ sink with taken := sink.taken ++ bytes, room := sink.room - bytes.size }, none)
  else
    ({ sink with taken := sink.taken ++ bytes.extract 0 sink.room, room := 0 }, some sink.reason)

/-- Write lines with their ends, up to the first failure. -/
def writeLines (sink : Sink) : List String → Sink × Option String
  | [] => (sink, none)
  | line :: rest =>
    match sink.write (line ++ "\n") with
    | (sink, none) => sink.writeLines rest
    | (sink, some reason) => (sink, some reason)

end Sink

def Report.writeText (report : Report) (style : ReportStyle) (rows : Nat) (sink : Sink) :
    Sink × Option String :=
  sink.writeLines (report.textLines style rows)

end HoldoutLine
