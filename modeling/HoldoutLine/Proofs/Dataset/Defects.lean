import HoldoutLine.Dataset.Decode
import Mathlib.Data.List.Forall2

/-! # The first defect decides

Records are judged in order, the header before the rows. `Dataset.defect?` looks for the first record that cannot
be read, without reading on; `ofScanned_of_defect`, `ofScanned_of_failure` and `ofScanned_of_sound` say that it
decides between the outcomes, and that a failure of the source counts only where there is no defect.
-/

namespace HoldoutLine

section Failures

variable {ε α β : Type}

/-- Why a computation failed, if it did. -/
def failure? : Except ε α → Option ε
  | .ok _ => none
  | .error failure => some failure

theorem failure?_eq_some_iff {outcome : Except ε α} {failure : ε} :
    failure? outcome = some failure ↔ outcome = .error failure := by
  cases outcome <;> simp [failure?]

private theorem failure?_eq_none_iff {outcome : Except ε α} :
    failure? outcome = none ↔ ∃ value, outcome = .ok value := by
  cases outcome <;> simp [failure?]

/-- The first element that fails decides a run over a list. -/
theorem mapM_of_failure {f : α → Except ε β} {xs : List α} {failure : ε}
    (first : (xs.findSome? fun x => failure? (f x)) = some failure) : xs.mapM f = .error failure := by
  induction xs with
  | nil => cases first
  | cons x rest ih =>
    rw [List.mapM_cons]
    cases outcome : f x with
    | error earlier =>
      rw [List.findSome?_cons, outcome] at first
      cases first
      rfl
    | ok value =>
      rw [List.findSome?_cons, outcome] at first
      rw [ih first]
      rfl

/-- If no element fails, all values are there, in order. -/
theorem mapM_of_sound {f : α → Except ε β} {xs : List α} (sound : (xs.findSome? fun x => failure? (f x)) = none) :
    ∃ ys, xs.mapM f = .ok ys ∧ List.Forall₂ (fun x y => f x = .ok y) xs ys := by
  induction xs with
  | nil => exact ⟨[], rfl, .nil⟩
  | cons x rest ih =>
    obtain ⟨head, tail⟩ := List.findSome?_eq_none_iff.mp sound |> List.forall_mem_cons.mp
    obtain ⟨value, outcome⟩ := failure?_eq_none_iff.mp head
    obtain ⟨values, all, each⟩ := ih (List.findSome?_eq_none_iff.mpr tail)
    refine ⟨value :: values, ?_, .cons outcome each⟩
    rw [List.mapM_cons, outcome, all]
    rfl

end Failures

namespace DatasetError

def line? : DatasetError → Option Nat
  | .wrongColumnCount line _ | .notNumeric line _ | .nonFinite line _ => some line
  | _ => none

/-- Whether an error tells of a record that cannot be read. -/
def isDefect : DatasetError → Bool
  | .invalidText .. | .wrongColumnCount .. | .notNumeric .. | .nonFinite .. => true
  | _ => false

theorem isDefect_of_line {error : DatasetError} {line : Nat} (names : error.line? = some line) :
    error.isDefect = true := by
  cases error <;> first | rfl | cases names

/-- A defect of a record; if it names a line, it names this one. -/
structure DefectOn (line : Nat) (error : DatasetError) : Prop where
  defect : error.isDefect = true
  line_eq : ∀ named, error.line? = some named → named = line

/-- An error that names a line is a defect on it. -/
theorem DefectOn.of_line {error : DatasetError} {line : Nat} (names : error.line? = some line) :
    DefectOn line error where
  defect := isDefect_of_line names
  line_eq _ same := Option.some.inj (same.symm.trans names)

end DatasetError

namespace Dataset

open Table DatasetError

section Records

variable {line : Nat} {record : Record} {error : DatasetError}

private theorem defectOn_of_textsFrom {index : Nat} {fields : List (List UInt8)}
    (failed : record.textsFrom index fields = .error error) : DefectOn line error := by
  induction fields generalizing index with
  | nil => cases failed
  | cons field rest ih =>
    rw [Record.textsFrom] at failed
    split at failed
    · cases failed
      exact ⟨rfl, nofun⟩
    · cases tail : record.textsFrom (index + 1) rest with
      | ok texts => simp only [tail, Except.map, reduceCtorEq] at failed
      | error earlier =>
        simp only [tail, Except.map, Except.error.injEq] at failed
        exact ih (failed ▸ tail)

private theorem defectOn_of_readCell {cell : String} (failed : readCell line cell = .error error) :
    DefectOn line error := by
  simp only [readCell] at failed
  split at failed
  · cases failed
    exact .of_line rfl
  · split at failed
    · cases failed
    · cases failed
      exact .of_line rfl

private theorem defectOn_of_readCells {cells : List String} (failed : readCells line cells = .error error) :
    DefectOn line error := by
  unfold readCells at failed
  split at failed
  · next predictorCell targetCell =>
    cases predictor : readCell line predictorCell with
    | error earlier =>
      rw [predictor] at failed
      cases failed
      exact defectOn_of_readCell predictor
    | ok x =>
      cases target : readCell line targetCell with
      | error earlier =>
        rw [predictor, target] at failed
        cases failed
        exact defectOn_of_readCell target
      | ok y =>
        rw [predictor, target] at failed
        cases failed
  · cases failed
    exact .of_line rfl

/-- What is wrong with a row is placed where the row is. -/
theorem defectOn_of_readRow (failed : readRow record = .error error) : DefectOn record.start.line error := by
  unfold readRow at failed
  cases texts : record.texts with
  | error earlier =>
    rw [texts] at failed
    cases failed
    exact defectOn_of_textsFrom texts
  | ok cells =>
    rw [texts] at failed
    exact defectOn_of_readCells failed

/-- What is wrong with the header is placed on the first line. -/
theorem defectOn_of_readHeader (failed : readHeader record = .error error) : DefectOn 1 error := by
  unfold readHeader at failed
  cases texts : record.texts with
  | error earlier =>
    rw [texts] at failed
    cases failed
    exact defectOn_of_textsFrom texts
  | ok cells =>
    rw [texts] at failed
    simp only [bind, Except.bind] at failed
    split at failed
    · cases failed
    · cases failed
      exact .of_line rfl

end Records

/-- Why the record of a number, counted from zero, cannot be read; the first one is the header. -/
def defectAt? : Nat → Record → Option DatasetError
  | 0, header => failure? (readHeader header)
  | _ + 1, row => failure? (readRow row)

/-- Why some records are no dataset, as far as one of them is to blame. -/
def defect? : List Record → Option DatasetError
  | [] => none
  | header :: rows => (failure? (readHeader header)).or (rows.findSome? fun row => failure? (readRow row))

/-- A record that cannot be read, for this reason, while all those before it can. -/
structure FirstDefect (records : List Record) (number : Nat) (record : Record) (error : DatasetError) : Prop where
  found : records[number]? = some record
  defect : defectAt? number record = some error
  earlier : ∀ k other, k < number → records[k]? = some other → defectAt? k other = none

section Records

variable {records : List Record} {number : Nat} {record : Record} {error : DatasetError}

/-- The line of a defect is that of the record, save that the header counts as standing on the first. -/
theorem defectOn_of_defectAt (failed : defectAt? number record = some error) :
    DefectOn (if number = 0 then 1 else record.start.line) error := by
  cases number with
  | zero => exact defectOn_of_readHeader (failure?_eq_some_iff.mp failed)
  | succ number => exact defectOn_of_readRow (failure?_eq_some_iff.mp failed)

/-- A defect is the defect of one record, and the first. -/
theorem firstDefect_of_defect (defective : defect? records = some error) :
    ∃ number record, FirstDefect records number record error := by
  cases records with
  | nil => cases defective
  | cons header rows =>
    rcases Option.or_eq_some_iff.mp defective with atHeader | ⟨sound, inRows⟩
    · exact ⟨0, header, rfl, atHeader, nofun⟩
    · obtain ⟨before, row, after, rfl, failed, fine⟩ := List.findSome?_eq_some_iff.mp inRows
      refine ⟨before.length + 1, row, by simp, failed, fun k other early found => ?_⟩
      cases k with
      | zero =>
        cases found
        exact sound
      | succ k =>
        have within : k < before.length := by omega
        rw [List.getElem?_cons_succ, List.getElem?_append_left within] at found
        exact fine other (List.mem_of_getElem? found)

theorem isDefect_of_defect (defective : defect? records = some error) : error.isDefect = true := by
  obtain ⟨number, record, first⟩ := firstDefect_of_defect defective
  exact (defectOn_of_defectAt first.defect).defect

/-- Records that come later do not change the first defect. -/
theorem defect_of_longer {more : List Record} (start : records <+: more) (defective : defect? records = some error) :
    defect? more = some error := by
  obtain ⟨rest, rfl⟩ := start
  cases records with
  | nil => cases defective
  | cons header rows =>
    simp only [defect?, List.cons_append, List.findSome?_append, ← Option.or_assoc] at defective ⊢
    rw [defective, Option.some_or]

end Records

section Outcome

variable {scanned : Scanned} {error : DatasetError} {reason : String}

/-- A defect is the outcome, however the source ended. -/
theorem ofScanned_of_defect (defective : defect? scanned.records = some error) :
    ofScanned scanned = .error error := by
  unfold ofScanned
  cases records : scanned.records with
  | nil =>
    rw [records] at defective
    cases defective
  | cons header rows =>
    rw [records] at defective
    rcases Option.or_eq_some_iff.mp defective with atHeader | ⟨sound, inRows⟩
    · dsimp only
      rw [failure?_eq_some_iff.mp atHeader]
      rfl
    · obtain ⟨names, header⟩ := failure?_eq_none_iff.mp sound
      dsimp only
      rw [header, mapM_of_failure inRows]
      rfl

/-- Without a defect, a failure of the source is the outcome. -/
theorem ofScanned_of_failure (sound : defect? scanned.records = none) (failed : scanned.failure = some reason) :
    ofScanned scanned = .error (.readFailed reason) := by
  unfold ofScanned
  rw [failed]
  cases records : scanned.records with
  | nil => rfl
  | cons header rows =>
    rw [records] at sound
    obtain ⟨atHeader, inRows⟩ := Option.or_eq_none_iff.mp sound
    obtain ⟨names, header⟩ := failure?_eq_none_iff.mp atHeader
    obtain ⟨observations, all, -⟩ := mapM_of_sound inRows
    dsimp only
    rw [header, all]
    rfl

/-- Without either, there are records or there is no header. -/
theorem ofScanned_of_empty (empty : scanned.records = []) (whole : scanned.failure = none) :
    ofScanned scanned = .error .missingHeader := by
  rw [ofScanned, empty, whole]
  rfl

/-- Without either, the rows are all read, in order. -/
theorem ofScanned_of_sound {header : Record} {rows : List Record} (records : scanned.records = header :: rows)
    (sound : defect? scanned.records = none) (whole : scanned.failure = none) :
    ∃ names observations, readHeader header = .ok names ∧
      List.Forall₂ (fun row observation => readRow row = .ok observation) rows observations ∧
      ofScanned scanned = ofFinite names.1 names.2 observations := by
  rw [records] at sound
  obtain ⟨atHeader, inRows⟩ := Option.or_eq_none_iff.mp sound
  obtain ⟨names, header⟩ := failure?_eq_none_iff.mp atHeader
  obtain ⟨observations, all, each⟩ := mapM_of_sound inRows
  refine ⟨names, observations, header, each, ?_⟩
  unfold ofScanned
  rw [records, whole]
  dsimp only
  rw [header, all]
  rfl

private theorem ofFinite_error {predictorName targetName : String} {rows : List FiniteObservation}
    (failed : ofFinite predictorName targetName rows = .error error) : error = .noRows := by
  unfold ofFinite at failed
  split at failed
  · cases failed
    rfl
  · cases failed

/-- What a failure to read a table comes to: the first defect, else the failure of the source, else that something is
missing. -/
theorem error_cases (failed : ofScanned scanned = .error error) :
    defect? scanned.records = some error ∨
      (defect? scanned.records = none ∧ ∃ reason, scanned.failure = some reason ∧ error = .readFailed reason) ∨
      scanned.failure = none ∧ (error = .missingHeader ∨ error = .noRows) := by
  cases defective : defect? scanned.records with
  | some other =>
    cases failed.symm.trans (ofScanned_of_defect defective)
    exact .inl rfl
  | none =>
    cases ended : scanned.failure with
    | some reason =>
      cases failed.symm.trans (ofScanned_of_failure defective ended)
      exact .inr (.inl ⟨rfl, reason, rfl, rfl⟩)
    | none =>
      cases records : scanned.records with
      | nil =>
        cases failed.symm.trans (ofScanned_of_empty records ended)
        exact .inr (.inr ⟨rfl, .inl rfl⟩)
      | cons header rows =>
        obtain ⟨names, observations, -, -, outcome⟩ := ofScanned_of_sound records defective ended
        exact .inr (.inr ⟨rfl, .inr (ofFinite_error (outcome.symm.trans failed))⟩)

/-- Only a record gives a defect. -/
theorem defect_of_ofScanned (failed : ofScanned scanned = .error error) (isDefect : error.isDefect = true) :
    defect? scanned.records = some error := by
  rcases error_cases failed with defective | ⟨-, reason, -, rfl⟩ | ⟨-, rfl | rfl⟩
  · exact defective
  · cases isDefect
  · cases isDefect
  · cases isDefect

end Outcome

end Dataset

end HoldoutLine
