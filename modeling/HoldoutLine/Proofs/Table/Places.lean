import HoldoutLine.Proofs.Table.Reads
import Mathlib.Data.List.Infix

/-! # Where the records of a table stand

A byte does one of three things to a scan: it is an empty line between records, it ends a record, or it belongs to
a record. `Scanner.Advance` says what each of them changes, and everything about positions follows from that.
`Begins` says where a record of a table begins, by counting the records that have ended: after the byte that ended
the record before it come line ends, and then its first byte. The line that the scanner gives to a record is the
one on which the record before it ended, however many line feeds stand between the two.
-/

namespace HoldoutLine.Table

/-- The line on which the next byte stands. -/
def lineAfter (bytes : List UInt8) : Nat := 1 + bytes.count lineFeed

/-- How many records have ended within some bytes. -/
def recordsEnded (bytes : List UInt8) : Nat := ((Scanner.initial 0).run bytes).finished.length

/-- The bytes through the one that ends the `number`-th record, and no more; none for `number` zero. -/
structure Through (number : Nat) (bytes : List UInt8) : Prop where
  ended : recordsEnded bytes = number
  shortest : ∀ start, start <+: bytes → recordsEnded start = number → start = bytes

/-- Where the record of a number, counted from zero, begins in a table: its first byte comes after the bytes
`upTo` through the end of the record before it and the line ends `gap`. -/
structure Begins (table : List UInt8) (number : Nat) (upTo gap : List UInt8) : Prop where
  through : Through number upTo
  gap_lineEnds : ∀ byte ∈ gap, isLineEnd byte = true
  first : ∃ byte rest, table = upTo ++ (gap ++ byte :: rest) ∧ isLineEnd byte = false

namespace Scanner

/-- What one byte does to a scan. -/
inductive Advance (scanner : Scanner) (byte : UInt8) : Scanner → Prop where
  /-- An empty line between records. -/
  | skipped (between : scanner.place = .betweenRecords) (ends : isLineEnd byte = true) :
      Advance scanner byte { scanner with here := scanner.here.after byte }
  /-- The byte that ends a record; the next one starts after it. -/
  | ended (inside : scanner.place ≠ .betweenRecords) (ends : isLineEnd byte = true) :
      Advance scanner byte { scanner with here := scanner.here.after byte }.endRecord
  /-- A byte of a record. -/
  | went {next : Scanner} (inside : next.place ≠ .betweenRecords)
      (opens : scanner.place = .betweenRecords → isLineEnd byte = false)
      (here : next.here = scanner.here.after byte) (start : next.start = scanner.start)
      (records : next.records = scanner.records) : Advance scanner byte next

section Step

variable {scanner : Scanner} {byte : UInt8}

/-- Outside quotes a byte separates, ends or belongs to a field. -/
theorem advance_bareByte (opens : scanner.place = .betweenRecords → isLineEnd byte = false) :
    Advance scanner byte ({ scanner with here := scanner.here.after byte }.bareByte byte) := by
  unfold bareByte
  split_ifs with separates ends
  · exact .went nofun opens rfl rfl rfl
  · refine .ended (fun between => ?_) ends
    simp only [opens between, Bool.false_eq_true] at ends
  · exact .went nofun opens rfl rfl rfl

private theorem advance_firstByte (opens : scanner.place = .betweenRecords → isLineEnd byte = false) :
    Advance scanner byte ({ scanner with here := scanner.here.after byte }.firstByte byte) := by
  unfold firstByte
  split_ifs
  · exact .went nofun opens rfl rfl rfl
  · exact advance_bareByte opens

private theorem advance_step (scanner : Scanner) (byte : UInt8) : Advance scanner byte (scanner.step byte) := by
  unfold step
  cases place : scanner.place with
  | betweenRecords =>
    dsimp only
    split_ifs with ends
    · simpa only [place] using Advance.skipped place ends
    · exact advance_firstByte fun _ => Bool.eq_false_iff.mpr ends
  | fieldStart => exact advance_firstByte (by simp only [place, reduceCtorEq, false_implies])
  | bare => exact advance_bareByte (by simp only [place, reduceCtorEq, false_implies])
  | quoted =>
    dsimp only
    split_ifs <;> exact .went nofun (by simp only [place, reduceCtorEq, false_implies]) rfl rfl rfl
  | quoteSeen =>
    dsimp only
    split_ifs
    · exact .went nofun (by simp only [place, reduceCtorEq, false_implies]) rfl rfl rfl
    · exact advance_bareByte (by simp only [place, reduceCtorEq, false_implies])

theorem finished_endRecord (scanner : Scanner) :
    scanner.endRecord.finished = scanner.finished ++ [scanner.record] :=
  List.reverse_cons

/-- A byte ends at most one record, and takes none back. -/
theorem finished_prefix_step (scanner : Scanner) (byte : UInt8) :
    scanner.finished <+: (scanner.step byte).finished := by
  have advance := advance_step scanner byte
  generalize scanner.step byte = next at advance
  cases advance with
  | skipped => exact List.prefix_rfl
  | ended => exact ⟨[scanner.record], (finished_endRecord _).symm⟩
  | went _ _ _ _ records => rw [finished, finished, records]

theorem finished_prefix_run (scanner : Scanner) (bytes : List UInt8) :
    scanner.finished <+: (scanner.run bytes).finished := by
  induction bytes generalizing scanner with
  | nil => exact List.prefix_rfl
  | cons byte rest ih => exact (finished_prefix_step scanner byte).trans (ih (scanner.step byte))

theorem finished_prefix_close (scanner : Scanner) : scanner.finished <+: scanner.close.finished := by
  unfold close
  split
  · exact List.prefix_rfl
  · exact ⟨[scanner.record], (finished_endRecord scanner).symm⟩

/-- Whether a record ends depends on the place alone, not on positions or on what is read. -/
theorem alike_step {one other : Scanner} (place : one.place = other.place)
    (ended : one.finished.length = other.finished.length) (byte : UInt8) :
    (one.step byte).place = (other.step byte).place ∧
      (one.step byte).finished.length = (other.step byte).finished.length := by
  simp only [finished, List.length_reverse] at ended ⊢
  unfold step firstByte bareByte
  rw [place]
  cases other.place <;> dsimp only <;> split_ifs <;>
    simp only [endField, endRecord, push, List.length_cons, ended, and_self]

private theorem length_finished_run (one other : Scanner) (place : one.place = other.place)
    (ended : one.finished.length = other.finished.length) (bytes : List UInt8) :
    (one.run bytes).finished.length = (other.run bytes).finished.length := by
  induction bytes generalizing one other with
  | nil => exact ended
  | cons byte rest ih =>
    obtain ⟨samePlace, sameEnded⟩ := alike_step place ended byte
    exact ih (one.step byte) (other.step byte) samePlace sameEnded

end Step

end Scanner

section Ended

private theorem length_finished_initial (skipped : Nat) (bytes : List UInt8) :
    ((Scanner.initial skipped).run bytes).finished.length = recordsEnded bytes :=
  Scanner.length_finished_run (.initial skipped) (.initial 0) rfl rfl bytes

private theorem recordsEnded_mono {start bytes : List UInt8} (begins : start <+: bytes) :
    recordsEnded start ≤ recordsEnded bytes := by
  obtain ⟨rest, rfl⟩ := begins
  rw [recordsEnded, recordsEnded, Scanner.run_append]
  exact (Scanner.finished_prefix_run _ rest).length_le

private theorem through_zero : Through 0 [] where
  ended := rfl
  shortest _ begins _ := List.prefix_nil.mp begins

/-- The byte with which one more record has ended. -/
theorem through_succ {bytes : List UInt8} {byte : UInt8}
    (ends : recordsEnded (bytes ++ [byte]) = recordsEnded bytes + 1) :
    Through (recordsEnded bytes + 1) (bytes ++ [byte]) where
  ended := ends
  shortest start begins ended := by
    rcases List.prefix_concat_iff.mp begins with whole | before
    · exact whole
    · have := recordsEnded_mono before
      omega

theorem Begins.append {table upTo gap : List UInt8} {number : Nat} (begins : Begins table number upTo gap)
    (more : List UInt8) : Begins (table ++ more) number upTo gap where
  through := begins.through
  gap_lineEnds := begins.gap_lineEnds
  first := by
    obtain ⟨byte, rest, rfl, first⟩ := begins.first
    exact ⟨byte, rest ++ more, by simp only [List.append_assoc, List.cons_append], first⟩

end Ended

/-- A record is placed on the line on which the record before it ended. -/
def PlacedAfter (table : List UInt8) (number : Nat) (record : Record) : Prop :=
  ∃ upTo gap, Begins table number upTo gap ∧ record.start.line = lineAfter upTo

/-- What a scanner knows about positions after some bytes. -/
structure Tracks (bytes : List UInt8) (scanner : Scanner) : Prop where
  here : scanner.here.line = lineAfter bytes
  /-- Between records, only line ends have come since the last one ended. -/
  between : scanner.place = .betweenRecords → ∃ upTo gap, bytes = upTo ++ gap ∧
    Through (recordsEnded bytes) upTo ∧ (∀ byte ∈ gap, isLineEnd byte = true) ∧ scanner.start.line = lineAfter upTo
  /-- The record at hand is placed as the finished ones are. -/
  inside : scanner.place ≠ .betweenRecords → PlacedAfter bytes (recordsEnded bytes) scanner.record
  finished : ∀ number record, scanner.finished[number]? = some record → PlacedAfter bytes number record

theorem PlacedAfter.append {table : List UInt8} {number : Nat} {record : Record}
    (placed : PlacedAfter table number record) (more : List UInt8) : PlacedAfter (table ++ more) number record := by
  obtain ⟨upTo, gap, begins, line⟩ := placed
  exact ⟨upTo, gap, begins.append more, line⟩

namespace Tracks

variable {bytes : List UInt8} {scanner : Scanner} {byte : UInt8}

theorem initial (skipped : Nat) : Tracks [] (Scanner.initial skipped) where
  here := rfl
  between _ := ⟨[], [], rfl, through_zero, nofun, rfl⟩
  inside outside := (outside rfl).elim
  finished _ _ none := nomatch none

private theorem here_after (tracks : Tracks bytes scanner) (byte : UInt8) :
    (scanner.here.after byte).line = lineAfter (bytes ++ [byte]) := by
  simp only [Position.after, tracks.here, lineAfter, List.count_append, List.count_singleton, beq_iff_eq]
  split_ifs <;> omega

private theorem finished_append (tracks : Tracks bytes scanner) (number : Nat) (record : Record)
    (found : scanner.finished[number]? = some record) : PlacedAfter (bytes ++ [byte]) number record :=
  (tracks.finished number record found).append [byte]

/-- Closing the record at hand adds it to the finished ones, as the next of them. -/
theorem concat (tracks : Tracks bytes scanner) (ended : scanner.finished.length = recordsEnded bytes)
    (inside : scanner.place ≠ .betweenRecords) {number : Nat} {record : Record}
    (found : (scanner.finished ++ [scanner.record])[number]? = some record) : PlacedAfter bytes number record := by
  rw [List.getElem?_append, List.getElem?_singleton] at found
  split_ifs at found with old last
  · exact tracks.finished number record found
  · cases found
    have atEnd : number = recordsEnded bytes := by omega
    exact atEnd ▸ tracks.inside inside

/-- An empty line widens the gap before the next record. -/
theorem skip (tracks : Tracks bytes scanner) (between : scanner.place = .betweenRecords)
    (ends : isLineEnd byte = true) (same : recordsEnded (bytes ++ [byte]) = recordsEnded bytes) :
    Tracks (bytes ++ [byte]) { scanner with here := scanner.here.after byte } where
  here := tracks.here_after byte
  between _ := by
    obtain ⟨upTo, gap, split, through, lineEnds, start⟩ := tracks.between between
    refine ⟨upTo, gap ++ [byte], ?_, same ▸ through, ?_, start⟩
    · rw [split, List.append_assoc]
    · intro other member
      rcases List.mem_append.mp member with old | new
      · exact lineEnds other old
      · exact List.mem_singleton.mp new ▸ ends
  inside inside := (inside between).elim
  finished := tracks.finished_append

/-- The byte that ends a record leaves no gap behind it yet. -/
theorem endRecord (tracks : Tracks bytes scanner) (before : scanner.finished.length = recordsEnded bytes)
    (inside : scanner.place ≠ .betweenRecords) (more : recordsEnded (bytes ++ [byte]) = recordsEnded bytes + 1) :
    Tracks (bytes ++ [byte]) { scanner with here := scanner.here.after byte }.endRecord where
  here := tracks.here_after byte
  between _ := ⟨bytes ++ [byte], [], (List.append_nil _).symm, more ▸ through_succ more, nofun, tracks.here_after byte⟩
  inside outside := (outside rfl).elim
  finished number record found := by
    rw [Scanner.finished_endRecord] at found
    exact (tracks.concat before inside found).append [byte]

/-- A byte of a record either begins it, behind the gap, or stands in one that has begun. -/
theorem goOn {next : Scanner} (tracks : Tracks bytes scanner) (inside : next.place ≠ .betweenRecords)
    (opens : scanner.place = .betweenRecords → isLineEnd byte = false) (here : next.here = scanner.here.after byte)
    (start : next.start = scanner.start) (records : next.records = scanner.records)
    (same : recordsEnded (bytes ++ [byte]) = recordsEnded bytes) : Tracks (bytes ++ [byte]) next where
  here := here ▸ tracks.here_after byte
  between between := (inside between).elim
  inside _ := by
    have sameLine : next.start.line = scanner.start.line := congrArg Position.line start
    rw [same]
    by_cases between : scanner.place = .betweenRecords
    · obtain ⟨upTo, gap, split, through, lineEnds, line⟩ := tracks.between between
      have first : bytes ++ [byte] = upTo ++ (gap ++ byte :: []) := by rw [split, List.append_assoc]
      exact ⟨upTo, gap, ⟨through, lineEnds, byte, [], first, opens between⟩, sameLine.trans line⟩
    · obtain ⟨upTo, gap, begins, line⟩ := tracks.inside between
      exact ⟨upTo, gap, begins.append [byte], sameLine.trans line⟩
  finished number record found := by
    rw [Scanner.finished, records] at found
    exact tracks.finished_append number record found

/-- Tracking is kept by every byte; only how many records have ended must agree before and after it. -/
theorem step (tracks : Tracks bytes scanner) (before : scanner.finished.length = recordsEnded bytes)
    (after : (scanner.step byte).finished.length = recordsEnded (bytes ++ [byte])) :
    Tracks (bytes ++ [byte]) (scanner.step byte) := by
  have advance := Scanner.advance_step scanner byte
  generalize scanner.step byte = next at advance after
  cases advance with
  | skipped between ends => exact tracks.skip between ends (after.symm.trans before)
  | ended inside ends =>
    apply tracks.endRecord before inside
    rw [← after, ← before]
    simp only [Scanner.finished, Scanner.endRecord, List.length_reverse, List.length_cons]
  | went inside opens here start records =>
    apply tracks.goOn inside opens here start records
    rw [← after, ← before, Scanner.finished, Scanner.finished, records]

/-- A scan tracks the records of every table, wherever its first byte stands. -/
theorem run (skipped : Nat) (bytes : List UInt8) : Tracks bytes ((Scanner.initial skipped).run bytes) := by
  induction bytes using List.reverseRecOn with
  | nil => exact .initial skipped
  | append_singleton bytes byte ih =>
    have after := length_finished_initial skipped (bytes ++ [byte])
    rw [Scanner.run_append] at after ⊢
    exact ih.step (length_finished_initial skipped bytes) after

/-- So does the record that the end of the bytes ends. -/
theorem close {skipped : Nat} {bytes : List UInt8} {number : Nat} {record : Record}
    (found : ((Scanner.initial skipped).run bytes).close.finished[number]? = some record) :
    PlacedAfter bytes number record := by
  have tracks := run skipped bytes
  have ended := length_finished_initial skipped bytes
  generalize (Scanner.initial skipped).run bytes = scanner at found tracks ended
  unfold Scanner.close at found
  split at found
  · exact tracks.finished number record found
  · next inside =>
    rw [Scanner.finished_endRecord] at found
    exact tracks.concat ended inside found

end Tracks

/-- Every record of a feed is placed on the line on which the record before it ended. -/
theorem Feed.placed_of_scan {feed : Feed} {number : Nat} {record : Record}
    (found : feed.scan.records[number]? = some record) : PlacedAfter feed.table number record := by
  by_cases alone : feed.opening = .markAlone
  · rw [scan_of_markAlone alone] at found
    cases found
  · rw [scan_of_table alone, scanner] at found
    cases ended : feed.failure with
    | none =>
      rw [ended] at found
      exact Tracks.close found
    | some reason =>
      rw [ended] at found
      exact (Tracks.run _ feed.table).finished number record found

section Unique

variable {table upTo gap : List UInt8} {number : Nat}

theorem Through.unique {other : List UInt8} (through : Through number upTo) (also : Through number other)
    (within : upTo <+: table) (alsoWithin : other <+: table) : upTo = other := by
  rcases List.prefix_or_prefix_of_prefix within alsoWithin with shorter | shorter
  · exact also.shortest upTo shorter through.ended
  · exact (through.shortest other shorter also.ended).symm

/-- A record begins in one place. -/
theorem Begins.unique {upTo' gap' : List UInt8} (begins : Begins table number upTo gap)
    (also : Begins table number upTo' gap') : upTo = upTo' ∧ gap = gap' := by
  obtain ⟨byte, rest, split, first⟩ := begins.first
  obtain ⟨byte', rest', split', first'⟩ := also.first
  have same : upTo = upTo' := begins.through.unique also.through ⟨_, split.symm⟩ ⟨_, split'.symm⟩
  subst same
  have remainder : gap ++ byte :: rest = gap' ++ byte' :: rest' := List.append_cancel_left (split.symm.trans split')
  have taken : ∀ {gap rest : List UInt8} {byte : UInt8}, (∀ byte ∈ gap, isLineEnd byte = true) →
      isLineEnd byte = false → (gap ++ byte :: rest).takeWhile isLineEnd = gap := by
    intro gap rest byte lineEnds first
    rw [List.takeWhile_append_of_pos lineEnds, List.takeWhile_cons_of_neg (by simp [first]), List.append_nil]
  refine ⟨rfl, ?_⟩
  rw [← taken begins.gap_lineEnds first, remainder, taken also.gap_lineEnds first']

end Unique

end HoldoutLine.Table
