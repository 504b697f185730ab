import HoldoutLine.Proofs.Dataset.Defects
import HoldoutLine.Proofs.Table.Places
import HoldoutLine.Proofs.Text.Utf8

/-! # Datasets and the reads they come in

Two questions about a source that hands its bytes out in reads. Do the reads matter? Only through the byte order
mark: one that comes whole in the first read is dropped, one that comes in pieces is kept. And can a source that
fails midway pass for a shorter table? A defect is reported from records that are complete, so that more bytes would
not undo it, and without a defect the failure is reported; only a first read of the mark alone hides it.
-/

namespace HoldoutLine.Dataset

open Table

section SameBytes

variable {one other : Feed}

/-- Where the bytes begin with no mark, or the first reads show it alike, only the bytes and the end count. -/
theorem ofFeed_congr (sameBytes : one.bytes = other.bytes) (sameEnd : one.failure = other.failure)
    (sameMark : Feed.byteOrderMark <+: one.bytes → one.opening = other.opening) : ofFeed one = ofFeed other := by
  have sameOpening : one.opening = other.opening := by
    by_cases mark : Feed.byteOrderMark <+: one.bytes
    · exact sameMark mark
    · rw [Feed.opening_of_no_mark mark, Feed.opening_of_no_mark (sameBytes ▸ mark)]
  rw [ofFeed, ofFeed, Feed.scan_congr sameBytes sameEnd sameOpening]

/-- Loading sees a source only through the dataset in it, log included. -/
theorem load_congr (same : ofFeed one = ofFeed other) : load (.ok one) = load (.ok other) := by
  have opened : ofOpened (.ok one) = ofOpened (.ok other) := same
  rw [load, load, opened]

/-- Sources of the same bytes that end alike are loaded alike, however their reads are cut, if those of them that
begin with a mark show it alike in their first reads. In particular a text that begins with no mark is read as it
stands, whatever reads its bytes come in. -/
theorem load_of_same_bytes (sameBytes : one.bytes = other.bytes) (sameEnd : one.failure = other.failure)
    (sameMark : Feed.byteOrderMark <+: one.bytes → one.opening = other.opening) :
    load (.ok one) = load (.ok other) ∧
      ∀ text : String, one.bytes = text.toUTF8.data.toList → one.failure = none →
        text.toList.head? ≠ some '\uFEFF' → ofFeed one = ofText text := by
  refine ⟨load_congr (ofFeed_congr sameBytes sameEnd sameMark), ?_⟩
  intro text bytes whole unmarked
  rw [Utf8.toList_toUTF8] at bytes
  apply ofFeed_congr
  · exact bytes.trans (Feed.bytes_ofText text).symm
  · exact whole
  · intro mark
    exact (unmarked (Feed.head_of_mark (bytes ▸ mark))).elim

def markedTable : Feed := ⟨[[0xEF, 0xBB, 0xBF, 0x78, 0x2C, 0x79, 0x0A, 0x31, 0x2C, 0x32]], none⟩

/-- The same table in other reads, the mark whole in the first of them. -/
def markedTableCut : Feed := ⟨[[0xEF, 0xBB, 0xBF, 0x78], [0x2C, 0x79, 0x0A, 0x31], [0x2C, 0x32]], none⟩

/-- The same table in other reads, which cut the mark. -/
def markCut : Feed := ⟨[[0xEF], [0xBB, 0xBF, 0x78, 0x2C, 0x79, 0x0A, 0x31, 0x2C, 0x32]], none⟩

theorem markedTable_read_alike :
    load (.ok markedTable) = load (.ok markedTableCut) ∧
      ∀ text : String, markedTable.bytes = text.toUTF8.data.toList → markedTable.failure = none →
        text.toList.head? ≠ some '\uFEFF' → ofFeed markedTable = ofText text :=
  load_of_same_bytes (by decide) rfl fun _ => by decide

/-- A mark that comes in pieces stays in the first column's name, one that comes whole does not. -/
theorem markCut_read_otherwise :
    markedTable.bytes = markCut.bytes ∧ markedTable.failure = none ∧ markCut.failure = none ∧
      (∀ read ∈ markedTable.reads ++ markCut.reads, read ≠ []) ∧
      (ofFeed markedTable).toOption.map Dataset.predictorName = some "x" ∧
      (ofFeed markCut).toOption.map Dataset.predictorName = some "\uFEFFx" := by
  refine ⟨by decide, rfl, rfl, by decide, ?_, ?_⟩ <;> decide +kernel

end SameBytes

section Failing

/-- A source that hands out some bytes, in reads of at most `size`, and then fails. -/
abbrev failing (size : Nat) (bytes : List UInt8) (reason : String) : Feed := .inReads size bytes (some reason)

/-- A source that fails midway does not pass for a whole table: either its failure is the outcome, or a defect that
any further bytes would leave the outcome. -/
def FailsSafely (size : Nat) (bytes : List UInt8) (reason : String) : Prop :=
  ofFeed (failing size bytes reason) = .error (.readFailed reason) ∨
    ∃ defect : DatasetError, defect.isDefect = true ∧ ofFeed (failing size bytes reason) = .error defect ∧
      ∀ more, ofFeed (.inReads size (bytes ++ more) none) = .error defect

variable {size : Nat} {bytes : List UInt8} {reason : String}

/-- Bytes that may yet become a mark hold no record. -/
theorem finished_of_prefix_mark (start : bytes <+: Feed.byteOrderMark) :
    ((Scanner.initial 0).run bytes).finished = [] := by
  obtain ⟨rest, mark⟩ := start
  have whole : ((Scanner.initial 0).run Feed.byteOrderMark).finished = [] := rfl
  have begins := Scanner.finished_prefix_run ((Scanner.initial 0).run bytes) rest
  rw [← Scanner.run_append, mark, whole] at begins
  exact List.prefix_nil.mp begins

private theorem positive_of_finished (records : (failing size bytes reason).scanner.finished ≠ []) :
    0 < size := by
  rcases Nat.eq_zero_or_pos size with rfl | positive
  · refine (records ?_).elim
    rw [Feed.scanner, Feed.table, Feed.bytes_inReads_zero, List.drop_nil]
    rfl
  · exact positive

/-- A source that has ended a record has shown all that it will ever show of a mark. -/
theorem opening_of_more (several : (failing size bytes reason).opening ≠ .markAlone)
    (records : (failing size bytes reason).scanner.finished ≠ []) (more : List UInt8) :
    (Feed.inReads size (bytes ++ more) none).opening = (failing size bytes reason).opening := by
  have opening := Feed.opening_inReads size bytes (some reason)
  rw [Feed.opening_inReads size (bytes ++ more), opening]
  -- A first read that is not full may grow, but what it shows changes only while it is a beginning of a mark.
  by_cases full : min size Feed.readCapacity ≤ bytes.length
  · rw [List.take_append_of_le_length full]
  · have longer := (List.prefix_append bytes more).take (min size Feed.readCapacity)
    rcases Feed.Opening.ofRead_of_longer longer (opening ▸ several) with same | ⟨unmarked, short⟩
    · exact same
    · refine (records ?_).elim
      rw [List.take_of_length_le (by omega)] at short
      rw [Feed.scanner, Feed.table, opening, unmarked, Feed.bytes_inReads (positive_of_finished records)]
      exact finished_of_prefix_mark short

/-- Had the source gone on, its records would have begun with those that it ended before it failed. -/
theorem records_of_more (several : (failing size bytes reason).opening ≠ .markAlone)
    (records : (failing size bytes reason).scanner.finished ≠ []) (more : List UInt8) :
    (failing size bytes reason).scanner.finished <+: (Feed.inReads size (bytes ++ more) none).scan.records := by
  have positive := positive_of_finished records
  have sameOpening := opening_of_more several records more
  have skipped := (failing size bytes reason).skipped_le_length
  rw [Feed.bytes_inReads positive] at skipped
  have goesOn : (Feed.inReads size (bytes ++ more) none).scanner = (failing size bytes reason).scanner.run more := by
    rw [Feed.scanner, Feed.scanner, Feed.table, Feed.table, sameOpening, Feed.bytes_inReads positive,
      Feed.bytes_inReads positive, List.drop_append_of_le_length skipped, Scanner.run_append]
  rw [Feed.scan_of_table (sameOpening ▸ several)]
  refine List.IsPrefix.trans ?_ (Scanner.finished_prefix_close _)
  rw [goesOn]
  exact Scanner.finished_prefix_run _ more

/-- A failing source fails safely, except behind a first read of a byte order mark and nothing else: that is taken
for the end of the bytes. -/
theorem failsSafely_iff : FailsSafely size bytes reason ↔ bytes.take size ≠ Feed.byteOrderMark := by
  rw [ne_eq, ← Feed.opening_inReads_eq_markAlone_iff (some reason)]
  constructor
  · intro safe alone
    have missing : ofFeed (failing size bytes reason) = .error .missingHeader := by
      rw [ofFeed, Feed.scan_of_markAlone alone]
      rfl
    rcases safe with failed | ⟨defect, isDefect, outcome, -⟩
    · cases missing.symm.trans failed
    · cases missing.symm.trans outcome
      cases isDefect
  · intro several
    have scanned : (failing size bytes reason).scan = ⟨(failing size bytes reason).scanner.finished, some reason⟩ :=
      Feed.scan_of_table several
    cases defective : defect? (failing size bytes reason).scanner.finished with
    | none =>
      left
      rw [ofFeed, scanned]
      exact ofScanned_of_failure defective rfl
    | some defect =>
      have records : (failing size bytes reason).scanner.finished ≠ [] := fun none => by
        rw [none] at defective
        cases defective
      refine .inr ⟨defect, isDefect_of_defect defective, ?_, fun more => ?_⟩
      · rw [ofFeed, scanned]
        exact ofScanned_of_defect defective
      · exact ofScanned_of_defect (defect_of_longer (records_of_more several records more) defective)

/-- A source that fails right behind a mark, which is all it handed out, is said to have no header. -/
theorem failure_hidden_by_mark :
    ofFeed (failing 8 [0xEF, 0xBB, 0xBF] "reader failed") = .error .missingHeader ∧
      ¬ FailsSafely 8 [0xEF, 0xBB, 0xBF] "reader failed" := by
  have missing : ofFeed (failing 8 [0xEF, 0xBB, 0xBF] "reader failed") = .error .missingHeader :=
    failure?_eq_some_iff.mp (by decide +kernel)
  refine ⟨missing, ?_⟩
  rintro (failed | ⟨defect, isDefect, outcome, -⟩)
  · cases missing.symm.trans failed
  · cases missing.symm.trans outcome
    cases isDefect

end Failing

end HoldoutLine.Dataset
