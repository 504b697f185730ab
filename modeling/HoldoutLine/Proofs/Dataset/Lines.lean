import HoldoutLine.Proofs.Dataset.Defects
import HoldoutLine.Proofs.Table.Places
import Mathlib.Data.List.Infix

/-! # The line that a defect names

A defect names a line, and one would look for it on the line on which the record begins. What it names is the line
on which the record before it ended, or the first for the header. The two are the same as long as no line feed
stands between the records: in a table whose lines end in a line feed or a carriage return, without empty lines.
After the pair of both, the line feed of the pair is not counted, and neither is an empty line.
-/

namespace HoldoutLine

namespace Table.Feed

/-- The line of the input on which the first byte of a record stands, the record beginning in the table after the
given bytes. -/
def lineOf (feed : Feed) (before : List UInt8) : Nat := lineAfter (feed.bytes.take feed.opening.skipped ++ before)

/-- The record of a number begins on a line of the input. -/
def StartsOn (feed : Feed) (number line : Nat) : Prop :=
  ∃ upTo gap, Begins feed.table number upTo gap ∧ line = feed.lineOf (upTo ++ gap)

/-- What is skipped holds no line feed. -/
theorem lineOf_eq (feed : Feed) (before : List UInt8) : feed.lineOf before = lineAfter before := by
  have none : (feed.bytes.take feed.opening.skipped).count lineFeed = 0 := by
    rcases feed.skipped_cases with nothing | ⟨skipped, rest, bytes⟩
    · rw [nothing]
      rfl
    · rw [skipped, ← bytes, List.take_left]
      rfl
  rw [lineOf, lineAfter, lineAfter, List.count_append, none, Nat.zero_add]

end Table.Feed

namespace Dataset

open Table

section Lines

variable {feed : Feed} {error : DatasetError} {line : Nat}

/-- The header counts as standing on the first line, which is where the bytes before any record leave it. -/
theorem line_of_header {table upTo gap : List UInt8} (begins : Begins table 0 upTo gap) : lineAfter upTo = 1 := by
  have none : [] = upTo := begins.through.shortest [] List.nil_prefix rfl
  rw [← none]
  rfl

/-- A defect that names a line is the first of the table, and names the line on which the record before it ended. -/
theorem named_line (failed : ofFeed feed = .error error) (names : error.line? = some line) :
    ∃ number record upTo gap, FirstDefect feed.scan.records number record error ∧
      Begins feed.table number upTo gap ∧ line = lineAfter upTo := by
  have defective := defect_of_ofScanned failed (DatasetError.isDefect_of_line names)
  obtain ⟨number, record, first⟩ := firstDefect_of_defect defective
  obtain ⟨upTo, gap, begins, start⟩ := Feed.placed_of_scan first.found
  refine ⟨number, record, upTo, gap, first, begins, ?_⟩
  rw [(defectOn_of_defectAt first.defect).line_eq line names]
  split_ifs with header
  · exact (line_of_header (header ▸ begins)).symm
  · exact start

/-- The line that a defect names is the one on which its record begins, less the line feeds between the record and
the end of the one before it: of the pair that ended that, and of empty lines. So it is the record's own line
exactly if none stands there. -/
theorem line_of_defect (failed : ofFeed feed = .error error) (names : error.line? = some line) :
    ∃ number record upTo gap, FirstDefect feed.scan.records number record error ∧
      Begins feed.table number upTo gap ∧ line + gap.count lineFeed = feed.lineOf (upTo ++ gap) ∧
      (feed.StartsOn number line ↔ lineFeed ∉ gap) := by
  obtain ⟨number, record, upTo, gap, first, begins, rfl⟩ := named_line failed names
  have lines : lineAfter upTo + gap.count lineFeed = feed.lineOf (upTo ++ gap) := by
    rw [Feed.lineOf_eq, lineAfter, lineAfter, List.count_append, Nat.add_assoc]
  refine ⟨number, record, upTo, gap, first, begins, lines, ?_⟩
  rw [← List.count_eq_zero]
  constructor
  · rintro ⟨upTo', gap', also, starts⟩
    obtain ⟨rfl, rfl⟩ := begins.unique also
    omega
  · intro none
    exact ⟨upTo, gap, begins, by omega⟩

def lineFeedTable : Feed := .ofText "x,y\n1,2\n3,abc\n"

/-- The defect of its third line is placed there. -/
theorem third_line_named :
    ∃ number record upTo gap, FirstDefect lineFeedTable.scan.records number record (.notNumeric 3 "abc") ∧
      Begins lineFeedTable.table number upTo gap ∧ 3 + gap.count lineFeed = lineFeedTable.lineOf (upTo ++ gap) ∧
      (lineFeedTable.StartsOn number 3 ↔ lineFeed ∉ gap) :=
  line_of_defect (failure?_eq_some_iff.mp (by decide +kernel)) rfl

def pairTable : Feed := .ofText "x,y\r\nb,1\r\n"

/-- Its second record begins behind the line feed of the pair that ended the first. -/
theorem begins_pairTable : Begins pairTable.table 1 [0x78, 0x2C, 0x79, 0x0D] [0x0A] where
  through :=
    { ended := by decide
      shortest := fun start begins => by
        have cuts : ∀ start ∈ List.inits [0x78, 0x2C, 0x79, 0x0D],
            recordsEnded start = 1 → start = [0x78, 0x2C, 0x79, 0x0D] := by decide
        exact cuts start ((List.mem_inits _ _).mpr begins) }
  gap_lineEnds := List.forall_mem_singleton.mpr rfl
  first := ⟨0x62, [0x2C, 0x31, 0x0D, 0x0A], by decide +kernel, by decide⟩

/-- The defect of its second line is placed on the first. -/
theorem second_line_misnamed :
    ofFeed pairTable = .error (.notNumeric 1 "b") ∧
      ¬ ∃ number record, FirstDefect pairTable.scan.records number record (.notNumeric 1 "b") ∧
        pairTable.StartsOn number 1 := by
  refine ⟨failure?_eq_some_iff.mp (by decide +kernel), ?_⟩
  rintro ⟨number, record, first, upTo, gap, begins, line⟩
  have sound : pairTable.scan.records[0]?.bind (defectAt? 0) = none := by decide +kernel
  have records : pairTable.scan.records.length = 2 := by decide +kernel
  have within : number < 2 := records ▸ (List.getElem?_eq_some_iff.mp first.found).1
  -- The header has no defect, so the record is the second, and that begins in one place only.
  obtain rfl | rfl : number = 0 ∨ number = 1 := by omega
  · rw [first.found, Option.bind_some, first.defect] at sound
    cases sound
  · obtain ⟨rfl, rfl⟩ := begins.unique begins_pairTable
    rw [Feed.lineOf_eq] at line
    revert line
    decide

end Lines

end Dataset

end HoldoutLine
