import HoldoutLine.Table.Feed
import Mathlib.Data.List.Infix
import Mathlib.Tactic.SplitIfs

/-! # A feed is its bytes and its opening

The scanner takes one byte at a time, so it cannot tell where one read ended and the next began. The only thing
that depends on the reads is the byte order mark, which is looked for in the first of them. `Feed.opening` says
what the first read shows, and `Feed.scan_congr` that a scan is a function of the opening, of the bytes and of
how the feed ended.
-/

namespace HoldoutLine.Table

/-- Reading one stretch of bytes after another is reading them joined. -/
theorem Scanner.foldl_run (reads : List (List UInt8)) (scanner : Scanner) :
    reads.foldl Scanner.run scanner = scanner.run reads.flatten :=
  List.foldl_flatten.symm

namespace Feed

/-- What the first read shows of a byte order mark. -/
inductive Opening where
  /-- No mark: every byte belongs to the table, also those of a mark that comes in several reads. -/
  | unmarked
  /-- A mark with bytes of the table after it. -/
  | marked
  /-- A mark and nothing else, which counts as the end of the bytes. -/
  | markAlone
  deriving DecidableEq, Repr

def Opening.ofRead (first : List UInt8) : Opening :=
  if first = byteOrderMark then .markAlone
  else if byteOrderMark.isPrefixOf first then .marked
  else .unmarked

/-- How many bytes at the start are no part of the table. -/
def Opening.skipped : Opening → Nat
  | .unmarked => 0
  | .marked | .markAlone => byteOrderMark.length

/-- The opening of a feed; a feed of no reads shows nothing. -/
def opening (feed : Feed) : Opening := .ofRead (feed.reads.headD [])

def table (feed : Feed) : List UInt8 := feed.bytes.drop feed.opening.skipped

def scanner (feed : Feed) : Scanner := (Scanner.initial feed.opening.skipped).run feed.table

section Opening

variable {first : List UInt8}

private theorem Opening.ofRead_eq_markAlone_iff :
    Opening.ofRead first = .markAlone ↔ first = byteOrderMark := by
  unfold Opening.ofRead
  split_ifs with alone marked
  · exact iff_of_true rfl alone
  · exact iff_of_false nofun alone
  · exact iff_of_false nofun alone

private theorem Opening.ofRead_eq_marked_iff :
    Opening.ofRead first = .marked ↔ byteOrderMark <+: first ∧ first ≠ byteOrderMark := by
  unfold Opening.ofRead
  split_ifs with alone marked
  · exact iff_of_false nofun fun both => both.2 alone
  · exact iff_of_true rfl ⟨List.isPrefixOf_iff_prefix.mp marked, alone⟩
  · exact iff_of_false nofun fun both => marked (List.isPrefixOf_iff_prefix.mpr both.1)

/-- A first read without a whole mark at its start opens no mark. -/
theorem Opening.ofRead_of_no_mark (none : ¬ byteOrderMark <+: first) : Opening.ofRead first = .unmarked := by
  cases opening : Opening.ofRead first with
  | unmarked => rfl
  | marked => exact (none (Opening.ofRead_eq_marked_iff.mp opening).1).elim
  | markAlone => exact (none (Opening.ofRead_eq_markAlone_iff.mp opening ▸ List.prefix_rfl)).elim

/-- More bytes in the first read show nothing else, unless those there were might yet become a mark. -/
theorem Opening.ofRead_of_longer {longer : List UInt8} (start : first <+: longer)
    (several : Opening.ofRead first ≠ .markAlone) :
    Opening.ofRead longer = Opening.ofRead first ∨ Opening.ofRead first = .unmarked ∧ first <+: byteOrderMark := by
  have notAlone : first ≠ byteOrderMark := mt Opening.ofRead_eq_markAlone_iff.mpr several
  by_cases mark : byteOrderMark <+: first
  · have alsoNotAlone : longer ≠ byteOrderMark := fun alone =>
      notAlone (List.IsPrefix.eq_of_length_le (alone ▸ start) mark.length_le)
    rw [Opening.ofRead_eq_marked_iff.mpr ⟨mark, notAlone⟩,
      Opening.ofRead_eq_marked_iff.mpr ⟨mark.trans start, alsoNotAlone⟩]
    exact .inl rfl
  · have unmarked := Opening.ofRead_of_no_mark mark
    by_cases alsoMark : byteOrderMark <+: longer
    · rcases List.prefix_or_prefix_of_prefix start alsoMark with short | long
      · exact .inr ⟨unmarked, short⟩
      · exact (mark long).elim
    · exact .inl ((Opening.ofRead_of_no_mark alsoMark).trans unmarked.symm)

end Opening

/-- The first read is a beginning of the bytes. -/
theorem headD_reads_prefix (feed : Feed) : feed.reads.headD [] <+: feed.bytes := by
  unfold bytes
  cases feed.reads with
  | nil => exact List.prefix_rfl
  | cons first rest => exact ⟨rest.flatten, rfl⟩

/-- Bytes that do not begin with a mark open none, however they are handed out. -/
theorem opening_of_no_mark {feed : Feed} (none : ¬ byteOrderMark <+: feed.bytes) :
    feed.opening = .unmarked :=
  Opening.ofRead_of_no_mark fun mark => none (mark.trans feed.headD_reads_prefix)

/-- What is skipped is nothing or a mark. -/
theorem skipped_cases (feed : Feed) :
    feed.opening.skipped = 0 ∨ feed.opening.skipped = byteOrderMark.length ∧ byteOrderMark <+: feed.bytes := by
  by_cases mark : byteOrderMark <+: feed.bytes
  · cases feed.opening with
    | unmarked => exact .inl rfl
    | marked => exact .inr ⟨rfl, mark⟩
    | markAlone => exact .inr ⟨rfl, mark⟩
  · rw [opening_of_no_mark mark]
    exact .inl rfl

theorem skipped_le_length (feed : Feed) : feed.opening.skipped ≤ feed.bytes.length := by
  rcases feed.skipped_cases with nothing | ⟨skipped, mark⟩
  · exact nothing ▸ Nat.zero_le _
  · exact skipped ▸ mark.length_le

section Scan

variable {feed : Feed}

/-- A mark alone hides even how the feed ended. -/
theorem scan_of_markAlone (alone : feed.opening = .markAlone) : feed.scan = ⟨[], none⟩ := by
  obtain ⟨reads, failure⟩ := feed
  cases reads with
  | nil => cases alone
  | cons first rest => exact if_pos (Opening.ofRead_eq_markAlone_iff.mp alone)

/-- Any other scan reads the table from its first byte to its last. -/
theorem scan_of_table (opened : feed.opening ≠ .markAlone) : feed.scan = conclude feed.scanner feed.failure := by
  obtain ⟨reads, failure⟩ := feed
  cases reads with
  | nil => rfl
  | cons first rest =>
    have joined := Scanner.foldl_run rest
    have several : first ≠ byteOrderMark := fun alone => opened (Opening.ofRead_eq_markAlone_iff.mpr alone)
    simp only [scan, if_neg several, scanner, table, opening, bytes, List.headD_cons, List.flatten_cons]
    by_cases mark : byteOrderMark <+: first
    · rw [if_pos (List.isPrefixOf_iff_prefix.mpr mark), joined, Opening.ofRead_eq_marked_iff.mpr ⟨mark, several⟩]
      obtain ⟨more, rfl⟩ := mark
      simp only [Opening.skipped, List.append_assoc, List.drop_left, Scanner.run_append]
    · rw [if_neg (mt List.isPrefixOf_iff_prefix.mp mark), Opening.ofRead_of_no_mark mark, List.foldl_cons, joined]
      simp only [Opening.skipped, List.drop_zero, Scanner.run_append]

/-- Feeds of the same bytes that end alike are scanned alike, unless the mark comes apart in one of them. -/
theorem scan_congr {other : Feed} (sameBytes : feed.bytes = other.bytes) (sameEnd : feed.failure = other.failure)
    (sameOpening : feed.opening = other.opening) : feed.scan = other.scan := by
  by_cases alone : feed.opening = .markAlone
  · rw [scan_of_markAlone alone, scan_of_markAlone (sameOpening ▸ alone)]
  · rw [scan_of_table alone, scan_of_table (sameOpening ▸ alone)]
    simp only [scanner, table, sameBytes, sameEnd, sameOpening]

end Scan

section InReads

/-- Cutting keeps the bytes and their order, behind what was cut before. -/
theorem flatten_cutInto {size : Nat} (positive : 0 < size) (done : List (List UInt8)) (bytes : List UInt8) :
    (cutInto size done bytes).flatten = done.reverse.flatten ++ bytes := by
  fun_induction cutInto size done bytes with
  | case1 done bytes stop =>
    rcases stop with zero | rfl
    · omega
    · exact (List.append_nil _).symm
  | case2 done bytes more ih =>
    rw [ih, List.reverse_cons, List.flatten_append, List.flatten_singleton, List.append_assoc,
      List.take_append_drop]

/-- What was cut before stays in front. -/
theorem done_prefix_cutInto (size : Nat) (done : List (List UInt8)) (bytes : List UInt8) :
    done.reverse <+: cutInto size done bytes := by
  fun_induction cutInto size done bytes with
  | case1 done bytes stop => exact List.prefix_rfl
  | case2 done bytes more ih => exact (List.reverse_cons ▸ List.prefix_append _ _).trans ih

private theorem headD_cutInto (size : Nat) (bytes : List UInt8) :
    (cutInto size [] bytes).headD [] = bytes.take size := by
  by_cases stop : size = 0 ∨ bytes = []
  · rw [cutInto, if_pos stop]
    rcases stop with rfl | rfl
    · rfl
    · exact List.take_nil.symm
  · rw [cutInto, if_neg stop]
    obtain ⟨rest, reads⟩ := done_prefix_cutInto size [bytes.take size] (bytes.drop size)
    rw [← reads]
    rfl

/-- No bytes are lost in reads that hold any. -/
theorem bytes_inReads {size : Nat} (positive : 0 < size) (bytes : List UInt8) (failure : Option String) :
    (inReads size bytes failure).bytes = bytes := by
  have capacity : 0 < min size readCapacity := Nat.lt_min.mpr ⟨positive, by decide⟩
  exact flatten_cutInto capacity [] bytes

/-- Nothing is read in reads of size zero. -/
theorem bytes_inReads_zero (bytes : List UInt8) (failure : Option String) :
    (inReads 0 bytes failure).bytes = [] := by
  rw [Feed.bytes, inReads, cutInto, if_pos (.inl (Nat.zero_min _))]
  rfl

theorem opening_inReads (size : Nat) (bytes : List UInt8) (failure : Option String) :
    (inReads size bytes failure).opening = .ofRead (bytes.take (min size readCapacity)) :=
  congrArg Opening.ofRead (headD_cutInto _ _)

/-- The first read is a mark alone if the bytes are, or if a read has room for no more. -/
theorem opening_inReads_eq_markAlone_iff {size : Nat} {bytes : List UInt8} (failure : Option String) :
    (inReads size bytes failure).opening = .markAlone ↔ bytes.take size = byteOrderMark := by
  rw [opening_inReads, Opening.ofRead_eq_markAlone_iff, Nat.min_comm, ← List.take_take]
  constructor
  · intro alone
    have length := congrArg List.length alone
    rw [List.length_take] at length
    have room : (bytes.take size).length ≤ readCapacity := by
      simp only [readCapacity, byteOrderMark, List.length_cons, List.length_nil] at length ⊢
      omega
    exact (List.take_of_length_le room).symm.trans alone
  · intro alone
    rw [alone]
    rfl

end InReads

end Feed

end HoldoutLine.Table
