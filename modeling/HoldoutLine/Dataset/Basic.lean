import HoldoutLine.Decimal.Notation
import HoldoutLine.Table.Scanner

/-! # Datasets

A dataset is a non-empty list of observations, each a finite predictor and a finite target, under two
column names. The type carries that promise, so every stage after loading may rely on it; the names may
be changed freely. `DatasetError` lists why a table or a list of observations is no dataset.
-/

namespace HoldoutLine

/-- A value to predict from and the value that goes with it. -/
structure Observation where
  predictor : Float
  target : Float
  deriving DecidableEq

/-- Neither value is infinite or not a number. -/
def Observation.isFinite (o : Observation) : Bool := o.predictor.isFinite && o.target.isFinite

/-- An observation that may be a row of a dataset. -/
abbrev FiniteObservation := { o : Observation // o.isFinite = true }

/-- Why there is no dataset. The bundled table is kept as a text, so that there is no error on decoding it. -/
inductive DatasetError where
  /-- A record holds a field that is no text; the field counted from zero, and its well-formed bytes. -/
  | invalidText (record : Nat) (start : Table.Position) (field validBytes : Nat)
  | readFailed (reason : String)
  | missingHeader
  | wrongColumnCount (line found : Nat)
  | notNumeric (line : Nat) (value : String)
  | nonFinite (line : Nat) (value : String)
  /-- An observation given directly is not finite; rows are counted from zero. -/
  | nonFiniteRow (row : Nat) (observation : Observation)
  | noRows
  | openFailed (reason : String)
  deriving DecidableEq

namespace DatasetError

/-- Everything but a source that could not be opened counts as malformed input. -/
def isMalformed : DatasetError → Bool
  | .openFailed _ => false
  | _ => true

/-- What is wrong with the input, without the words that open the message. -/
def detail : DatasetError → String
  | .invalidText record start field validBytes =>
    s!"CSV parse error: record {record} (line {start.line}, field: {field}, byte: {start.offset}): " ++
      s!"invalid utf-8: invalid UTF-8 in field {field} near byte index {validBytes}"
  | .readFailed reason => reason
  | .missingHeader => "missing header line"
  | .wrongColumnCount line found => s!"line {line}: expected 2 columns, found {found}"
  | .notNumeric line value => s!"line {line}: '{value}' is not a number"
  | .nonFinite line value => s!"line {line}: '{value}' is not a finite number"
  | .nonFiniteRow row observation =>
    let predictor := NumberLayout.report.text observation.predictor
    let target := NumberLayout.report.text observation.target
    s!"row {row} holds a non-finite value ({predictor}, {target})"
  | .noRows => "header present but no data rows"
  | .openFailed reason => reason

def message (error : DatasetError) : String :=
  (if error.isMalformed then "malformed input: " else "could not read input: ") ++ error.detail

end DatasetError

/-- Named columns of finite observations, at least one. -/
structure Dataset where
  predictorName : String
  targetName : String
  observations : List Observation
  observations_ne_nil : observations ≠ []
  all_finite : ∀ o ∈ observations, o.isFinite = true

namespace Dataset

/-- The first observation that is not finite, with its row. -/
def firstNonFinite? (observations : List Observation) : Option (Nat × Observation) :=
  (observations.zipIdx.find? fun (o, _) => !o.isFinite).map fun (o, row) => (row, o)

/-- A dataset of observations already known to be finite. -/
def ofFinite (predictorName targetName : String) (rows : List FiniteObservation) :
    Except DatasetError Dataset :=
  if nonempty : rows = [] then .error .noRows
  else .ok
    { predictorName
      targetName
      observations := rows.map Subtype.val
      observations_ne_nil := fun empty => nonempty (List.map_eq_nil_iff.1 empty)
      all_finite := by
        intro o member
        obtain ⟨row, _, rfl⟩ := List.mem_map.1 member
        exact row.property }

/-- A dataset of observations at hand. -/
def ofObservations (predictorName targetName : String) (observations : List Observation) :
    Except DatasetError Dataset :=
  if empty : observations = [] then .error .noRows
  else if finite : ∀ o ∈ observations, o.isFinite = true then
    .ok ⟨predictorName, targetName, observations, empty, finite⟩
  else match firstNonFinite? observations with
    | some (row, o) => .error (.nonFiniteRow row o)
    | none => .error .noRows

def size (dataset : Dataset) : Nat := dataset.observations.length

def shape (dataset : Dataset) : Nat × Nat := (dataset.size, 2)

def head (dataset : Dataset) (count : Nat) : List Observation := dataset.observations.take count

def predictors (dataset : Dataset) : List Float := dataset.observations.map Observation.predictor

def targets (dataset : Dataset) : List Float := dataset.observations.map Observation.target

def rename (dataset : Dataset) (predictorName targetName : String) : Dataset :=
  { dataset with predictorName, targetName }

end Dataset

end HoldoutLine
