import HoldoutLine.Proofs.Dataset.Reads

/-! # What an error of loading comes from

Loading fails because the source could not be opened, because a read failed, or because of the bytes. Which of them
it was is asked of the source, not of the error: a failed read is to blame if the same reads, ending in another way,
would not have given the same error. `DatasetError.isMalformed` ought to single out the bytes. It singles out
everything but a source that could not be opened, so it takes a failed read for malformed input.
-/

namespace HoldoutLine

namespace Table.Feed

/-- The same reads with another end. -/
abbrev endingIn (feed : Feed) (failure : Option String) : Feed := { feed with failure }

/-- A scan knows of a failure what the feed tells, unless a mark alone hides it. -/
theorem scan_failure (feed : Feed) : feed.scan.failure = none ∨ feed.scan.failure = feed.failure := by
  by_cases alone : feed.opening = .markAlone
  · rw [scan_of_markAlone alone]
    exact .inl rfl
  · rw [scan_of_table alone]
    cases feed.failure with
    | none => exact .inl rfl
    | some reason => exact .inr rfl

/-- A feed that fails has scanned no records that it would not have scanned, had it ended in another way. -/
theorem records_of_otherEnd {feed : Feed} {reason : String} (failed : feed.failure = some reason)
    (failure : Option String) : feed.scan.records <+: (feed.endingIn failure).scan.records := by
  by_cases alone : feed.opening = .markAlone
  · rw [scan_of_markAlone alone]
    exact List.nil_prefix
  · have several : (feed.endingIn failure).opening ≠ .markAlone := alone
    rw [scan_of_table alone, scan_of_table several, failed]
    cases failure with
    | none => exact Scanner.finished_prefix_close _
    | some other => exact List.prefix_rfl

end Table.Feed

namespace Dataset

open Table

/-- What an error of loading may come from. -/
inductive Cause where
  | opening
  | reading
  | content
  deriving DecidableEq, Repr

inductive CausedBy (opened : Except String Feed) (error : DatasetError) : Cause → Prop where
  /-- There was nothing to read. -/
  | opening {reason : String} (closed : opened = .error reason) : CausedBy opened error .opening
  /-- A read failed, and with another end the same reads would have come to something else. -/
  | reading {feed : Feed} {reason : String} {other : Option String} (isOpen : opened = .ok feed)
      (failed : feed.failure = some reason) (matters : ofFeed (feed.endingIn other) ≠ .error error) :
      CausedBy opened error .reading
  /-- The bytes came to their end, or those that came give the error whatever happened after them. -/
  | content {feed : Feed} (isOpen : opened = .ok feed)
      (enough : feed.failure = none ∨ ∀ other, ofFeed (feed.endingIn other) = .error error) :
      CausedBy opened error .content

section Reading

variable {feed : Feed} {error : DatasetError} {reason : String}

/-- A table from which the failure of a source is reported has no defect before it. -/
theorem readFailed_inv (failed : ofFeed feed = .error (.readFailed reason)) :
    feed.failure = some reason ∧ defect? feed.scan.records = none := by
  rcases error_cases failed with defective | ⟨sound, told, ended, same⟩ | ⟨-, impossible | impossible⟩
  · cases isDefect_of_defect defective
  · cases same
    rcases feed.scan_failure with hidden | known
    · cases ended.symm.trans hidden
    · exact ⟨known.symm.trans ended, sound⟩
  · cases impossible
  · cases impossible

/-- An error that is not the failure itself would have come however the source ended. -/
theorem ofFeed_of_otherEnd (failed : feed.failure = some reason) (outcome : ofFeed feed = .error error)
    (notTold : ∀ told, error ≠ .readFailed told) (other : Option String) :
    ofFeed (feed.endingIn other) = .error error := by
  rcases error_cases outcome with defective | ⟨-, told, -, same⟩ | ⟨whole, missing⟩
  · exact ofScanned_of_defect (defect_of_longer (Feed.records_of_otherEnd failed other) defective)
  · exact (notTold told same).elim
  · -- No failure is known although there was one, so the reads are a mark alone.
    have alone : feed.opening = .markAlone := by
      by_contra several
      rw [Feed.scan_of_table several, failed] at whole
      cases whole
    have alsoAlone : (feed.endingIn other).opening = .markAlone := alone
    have sameScan : (feed.endingIn other).scan = feed.scan :=
      (Feed.scan_of_markAlone alsoAlone).trans (Feed.scan_of_markAlone alone).symm
    rw [ofFeed, sameScan]
    exact outcome

/-- The failure of a source is told by no other end of the same reads. -/
theorem ofFeed_of_wholeEnd : ofFeed (feed.endingIn none) ≠ .error (.readFailed reason) := by
  intro told
  obtain ⟨failed, -⟩ := readFailed_inv told
  cases failed

/-- The error itself tells whether a failed read caused it. -/
theorem causedBy_reading_iff (outcome : ofFeed feed = .error error) :
    CausedBy (.ok feed) error .reading ↔ ∃ reason, error = .readFailed reason := by
  constructor
  · rintro (_ | ⟨isOpen, failed, matters⟩ | _)
    cases isOpen
    by_contra notTold
    exact matters (ofFeed_of_otherEnd failed outcome (not_exists.mp notTold) _)
  · rintro ⟨reason, rfl⟩
    exact .reading rfl (readFailed_inv outcome).1 ofFeed_of_wholeEnd

/-- The bytes are the cause of every other error of a source that was opened. -/
theorem causedBy_content_iff (outcome : ofFeed feed = .error error) :
    CausedBy (.ok feed) error .content ↔ ∀ reason, error ≠ .readFailed reason := by
  constructor
  · rintro (_ | _ | ⟨isOpen, enough⟩) reason rfl
    cases isOpen
    rcases enough with whole | same
    · cases whole.symm.trans (readFailed_inv outcome).1
    · exact ofFeed_of_wholeEnd (same none)
  · intro notTold
    refine .content rfl ?_
    cases failed : feed.failure with
    | none => exact .inl rfl
    | some reason => exact .inr (ofFeed_of_otherEnd failed outcome notTold)

/-- Once a source is open, every error counts as malformed input, that of a failed read with the others. -/
theorem isMalformed_of_ofFeed (outcome : ofFeed feed = .error error) : error.isMalformed = true := by
  rcases error_cases outcome with defective | ⟨-, reason, -, rfl⟩ | ⟨-, rfl | rfl⟩
  · have isDefect := isDefect_of_defect defective
    cases error <;> first | rfl | cases isDefect
  · rfl
  · rfl
  · rfl

end Reading

/-- An error of loading has one cause. It does not count as malformed input exactly if the source could not be
opened, so it counts as such exactly for the bytes' sake unless a failed read caused it; and that much the error
itself tells. -/
theorem isMalformed_unless_opening {opened : Except String Feed} {error : DatasetError}
    (failed : ofOpened opened = .error error) :
    (∃! cause, CausedBy opened error cause) ∧
      (error.isMalformed = false ↔ CausedBy opened error .opening) ∧
      ((error.isMalformed = true ↔ CausedBy opened error .content) ↔ ¬ CausedBy opened error .reading) ∧
      (CausedBy opened error .reading ↔ ∃ reason, error = .readFailed reason) := by
  cases opened with
  | error reason =>
    cases failed
    have isOpening : CausedBy (.error reason) (.openFailed reason) .opening := .opening rfl
    have only : ∀ cause, CausedBy (.error reason) (.openFailed reason) cause → cause = .opening := by
      rintro cause (_ | ⟨isOpen, _, _⟩ | ⟨isOpen, _⟩)
      · rfl
      · cases isOpen
      · cases isOpen
    have notReading : ¬ CausedBy (.error reason) (.openFailed reason) .reading := fun reading => nomatch only _ reading
    have notContent : ¬ CausedBy (.error reason) (.openFailed reason) .content := fun content => nomatch only _ content
    refine ⟨⟨.opening, isOpening, only⟩, iff_of_true rfl isOpening, ?_, iff_of_false notReading nofun⟩
    exact iff_of_true (iff_of_false nofun notContent) notReading
  | ok feed =>
    have outcome : ofFeed feed = .error error := failed
    have malformed := isMalformed_of_ofFeed outcome
    have reading := causedBy_reading_iff outcome
    have content := causedBy_content_iff outcome
    have notOpening : ¬ CausedBy (.ok feed) error .opening := by
      rintro (closed | _ | _)
      cases closed
    have otherwise : CausedBy (.ok feed) error .content ↔ ¬ CausedBy (.ok feed) error .reading := by
      rw [reading, content, not_exists]
    refine ⟨?_, iff_of_false (by simp [malformed]) notOpening, ?_, reading⟩
    · by_cases failing : CausedBy (.ok feed) error .reading
      · refine ⟨.reading, failing, ?_⟩
        rintro (_ | _ | _) caused
        · exact (notOpening caused).elim
        · rfl
        · exact (otherwise.mp caused failing).elim
      · refine ⟨.content, otherwise.mpr failing, ?_⟩
        rintro (_ | _ | _) caused
        · exact (notOpening caused).elim
        · exact (failing caused).elim
        · rfl
    · rw [otherwise]
      exact iff_true_left malformed

/-- A source that fails within its second record, which is sound so far. -/
def cutShort : Feed := ⟨[[0x78, 0x2C, 0x79, 0x0A, 0x31]], some "reader failed"⟩

/-- A source that fails behind a record that cannot be read. -/
def cutLate : Feed := ⟨[[0x78, 0x2C, 0x79, 0x0A], [0x62, 0x2C, 0x31, 0x0A, 0x32]], some "reader failed"⟩

theorem cutLate_isMalformed :
    ofOpened (.ok cutLate) = .error (.notNumeric 2 "b") ∧
      (∃! cause, CausedBy (.ok cutLate) (.notNumeric 2 "b") cause) ∧
      ((DatasetError.notNumeric 2 "b").isMalformed = false ↔ CausedBy (.ok cutLate) (.notNumeric 2 "b") .opening) ∧
      (((DatasetError.notNumeric 2 "b").isMalformed = true ↔ CausedBy (.ok cutLate) (.notNumeric 2 "b") .content) ↔
        ¬ CausedBy (.ok cutLate) (.notNumeric 2 "b") .reading) ∧
      (CausedBy (.ok cutLate) (.notNumeric 2 "b") .reading ↔
        ∃ reason, DatasetError.notNumeric 2 "b" = .readFailed reason) := by
  have failed : ofOpened (.ok cutLate) = .error (.notNumeric 2 "b") := failure?_eq_some_iff.mp (by decide +kernel)
  exact ⟨failed, isMalformed_unless_opening failed⟩

/-- A failed read is called malformed input. -/
theorem cutShort_isMalformed :
    ofOpened (.ok cutShort) = .error (.readFailed "reader failed") ∧
      CausedBy (.ok cutShort) (.readFailed "reader failed") .reading ∧
      ¬ ((DatasetError.readFailed "reader failed").isMalformed = false ↔
        CausedBy (.ok cutShort) (.readFailed "reader failed") .opening ∨
          CausedBy (.ok cutShort) (.readFailed "reader failed") .reading) := by
  have failed : ofFeed cutShort = .error (.readFailed "reader failed") :=
    failure?_eq_some_iff.mp (by decide +kernel)
  have reading : CausedBy (.ok cutShort) (.readFailed "reader failed") .reading :=
    (causedBy_reading_iff failed).mpr ⟨_, rfl⟩
  refine ⟨failed, reading, fun right => ?_⟩
  cases right.mpr (.inr reading)

end Dataset

end HoldoutLine
