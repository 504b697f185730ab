import HoldoutLine.Table.Scanner

/-! # Tables handed out in reads

A `Feed` is what a source of bytes did: the non-empty reads it handed out, in order, and how it ended,
at its end or with a failure. `Feed.scan` gives the records that were complete before that.

A byte order mark at the very start is no part of the table, but it is recognised only if the first read
delivers all three bytes of it; a first read of the mark alone counts as the end of the bytes.
-/

namespace HoldoutLine.Table

/-- What a source of bytes did. -/
structure Feed where
  reads : List (List UInt8)
  /-- The reason why reading failed after those reads; `none` if the source came to its end. -/
  failure : Option String
  deriving DecidableEq, Repr

/-- What is known of a table after its source ended: the complete records, and the failure if any. -/
structure Scanned where
  records : List Record
  failure : Option String
  deriving DecidableEq, Repr

namespace Feed

def bytes (feed : Feed) : List UInt8 := feed.reads.flatten

def byteOrderMark : List UInt8 := [0xEF, 0xBB, 0xBF]

/-- The most bytes that one read asks for. -/
def readCapacity : Nat := 8192

/-- Cut bytes into reads of at most `size` bytes; `done` holds the reads cut so far, last first. A read
of no bytes is the end of a source, so nothing is read in reads of size zero. -/
def cutInto (size : Nat) (done : List (List UInt8)) (bytes : List UInt8) : List (List UInt8) :=
  if size = 0 ∨ bytes = [] then done.reverse
  else cutInto size (bytes.take size :: done) (bytes.drop size)
termination_by bytes.length
decreasing_by
  rename_i more
  have : bytes.length ≠ 0 := fun empty => more (.inr (List.eq_nil_of_length_eq_zero empty))
  simp only [List.length_drop]
  omega

/-- Bytes handed out at most `size` at a time, and the failure that ends them if any. -/
def inReads (size : Nat) (bytes : List UInt8) (failure : Option String) : Feed :=
  ⟨cutInto (min size readCapacity) [] bytes, failure⟩

def ofBytes (bytes : List UInt8) : Feed := inReads readCapacity bytes none

def ofText (text : String) : Feed := ofBytes text.toUTF8.data.toList

/-- What a scan knows when its source has ended. -/
def conclude (scanner : Scanner) : Option String → Scanned
  | none => ⟨scanner.close.finished, none⟩
  | some reason => ⟨scanner.finished, some reason⟩

/-- The records of a feed. -/
def scan (feed : Feed) : Scanned :=
  match feed.reads with
  | [] => conclude (Scanner.initial 0) feed.failure
  | first :: rest =>
    if first = byteOrderMark then ⟨[], none⟩
    else if byteOrderMark.isPrefixOf first then
      let scanner := (Scanner.initial byteOrderMark.length).run (first.drop byteOrderMark.length)
      conclude (rest.foldl Scanner.run scanner) feed.failure
    else conclude (feed.reads.foldl Scanner.run (Scanner.initial 0)) feed.failure

end Feed

end HoldoutLine.Table
