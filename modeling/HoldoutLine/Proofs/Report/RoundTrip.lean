import HoldoutLine.Proofs.Json.Printer
import HoldoutLine.Report.Decode
import HoldoutLine.Report.Document

/-! # JSON reports lose nothing

Every report is printed as a JSON document, and the document says everything that the report says: null stands for what
is absent or undefined and for a double that is not finite, and nothing else is changed. So a report of finite doubles
is read back as it was, the sign of a zero included: `json_loses_nothing`. Encoding and decoding are inverse part by
part, whatever the doubles are (`ofJson_toJson`), and a document shows the value that was printed exactly if its doubles
are finite (`shown_toJson_iff`).
-/

namespace HoldoutLine

section Decoding

/-- Encoded items are decoded one by one. -/
theorem mapM_map_eq {α : Type} {encode : α → Json} {decode : Json → Option α}
    (inverse : ∀ value, decode (encode value) = some value) (values : List α) :
    (values.map encode).mapM decode = some values := by
  induction values with
  | nil => rfl
  | cons value rest ih => simp [inverse, ih]

/-- An absent value and a present one are told apart. -/
theorem asOptionalFloat_ofOption (value : Option Float) :
    (Json.ofOption .number value).asOptionalFloat? = some value := by
  cases value <;> rfl

theorem Observation.ofJson_toJson (row : Observation) : Observation.ofJson? row.toJson = some row := rfl

theorem DatasetSummary.ofJson_toJson (dataset : DatasetSummary) :
    DatasetSummary.ofJson? dataset.toJson = some dataset := by
  have head := mapM_map_eq Observation.ofJson_toJson dataset.head
  change (do
    let head ← (dataset.head.map Observation.toJson).mapM Observation.ofJson?
    return DatasetSummary.mk dataset.shape dataset.predictor dataset.target head) = some dataset
  rw [head]
  rfl

theorem HoldoutSummary.ofJson_toJson (holdout : HoldoutSummary) :
    HoldoutSummary.ofJson? holdout.toJson = some holdout := by
  have word : holdout.seed.toNat ≤ Binary64.maxCount := Nat.le_sub_one_of_lt holdout.seed.toNat_lt
  change (do
    guard (holdout.seed.toNat ≤ Binary64.maxCount)
    return HoldoutSummary.mk holdout.testFraction (UInt64.ofNat holdout.seed.toNat) holdout.trainRows
      holdout.testRows) = some holdout
  rw [guard, if_pos word, UInt64.ofNat_toNat]
  rfl

theorem Line.ofJson_toJson (line : Line Float) : Line.ofJson? line.toJson = some line := rfl

theorem FittedLine.ofJson_toJson (fit : FittedLine) : FittedLine.ofJson? fit.toJson = some fit := by
  change (do
    let r2 ← (Json.ofOption .number fit.r2).asOptionalFloat?
    let adjustedR2 ← (Json.ofOption .number fit.adjustedR2).asOptionalFloat?
    let sigma ← (Json.ofOption .number fit.sigma).asOptionalFloat?
    let pValue ← (Json.ofOption .number fit.pValue).asOptionalFloat?
    return FittedLine.mk fit.line fit.rows r2 adjustedR2 sigma pValue fit.aic fit.rmse) = some fit
  simp only [asOptionalFloat_ofOption]
  rfl

theorem Prediction.ofJson_toJson (prediction : Prediction) :
    Prediction.ofJson? prediction.toJson = some prediction :=
  rfl

theorem Assessment.ofJson_toJson (assessment : Assessment) :
    Assessment.ofJson? assessment.toJson = some assessment := by
  have predictions := mapM_map_eq Prediction.ofJson_toJson assessment.predictions
  change (do
    let predictions ← (assessment.predictions.map Prediction.toJson).mapM Prediction.ofJson?
    let r2 ← (Json.ofOption .number assessment.r2.share?).asOptionalFloat?
    return Assessment.mk predictions assessment.mse assessment.rmse assessment.mae
      (r2.elim .undefined .value)) = some assessment
  rw [predictions, asOptionalFloat_ofOption]
  obtain ⟨rows, mse, rmse, mae, r2⟩ := assessment
  cases r2 <;> rfl

theorem Report.ofJson_toJson (report : Report) : Report.ofJson? report.toJson = some report := by
  change (do
    return Report.mk (← DatasetSummary.ofJson? report.dataset.toJson) (← HoldoutSummary.ofJson? report.holdout.toJson)
      (← FittedLine.ofJson? report.fit.toJson) (← Assessment.ofJson? report.assessment.toJson)) = some report
  rw [DatasetSummary.ofJson_toJson, HoldoutSummary.ofJson_toJson, FittedLine.ofJson_toJson, Assessment.ofJson_toJson]
  rfl

end Decoding

section Doubles

def Observation.doubles (row : Observation) : List Float := [row.predictor, row.target]

def DatasetSummary.doubles (dataset : DatasetSummary) : List Float := dataset.head.flatMap Observation.doubles

def HoldoutSummary.doubles (holdout : HoldoutSummary) : List Float := [holdout.testFraction]

def Line.doubles (line : Line Float) : List Float := [line.intercept, line.slope]

/-- The coefficients of a line and its diagnostics, as far as they are present. -/
def FittedLine.doubles (fit : FittedLine) : List Float :=
  fit.line.doubles ++ (fit.r2.toList ++ (fit.adjustedR2.toList ++ (fit.sigma.toList ++ (fit.pValue.toList ++
    [fit.aic, fit.rmse]))))

def Prediction.doubles (prediction : Prediction) : List Float :=
  [prediction.predictor, prediction.actual, prediction.predicted, prediction.absError]

/-- The doubles of the predictions and their error measures, R² as far as it is defined. -/
def Assessment.doubles (assessment : Assessment) : List Float :=
  assessment.predictions.flatMap Prediction.doubles ++
    ([assessment.mse, assessment.rmse, assessment.mae] ++ assessment.r2.share?.toList)

def Report.doubles (report : Report) : List Float :=
  report.dataset.doubles ++ (report.holdout.doubles ++ (report.fit.doubles ++ report.assessment.doubles))

def Report.IsFinite (report : Report) : Prop := ∀ x ∈ report.doubles, x.isFinite = true

instance (report : Report) : Decidable report.IsFinite := inferInstanceAs (Decidable (∀ x ∈ report.doubles, _))

private theorem doubles_ofOption (value : Option Float) :
    (Json.ofOption .number value).doubles = value.toList := by
  cases value <;> rfl

/-- The encoded report holds the doubles of the report. -/
theorem Report.doubles_toJson (report : Report) : report.toJson.doubles = report.doubles := by
  have rows : ∀ row : Observation, row.toJson.doubles = row.doubles := fun _ => rfl
  have predictions : ∀ prediction : Prediction, prediction.toJson.doubles = prediction.doubles := fun _ => rfl
  have coefficients : ∀ line : Line Float, line.toJson.doubles = line.doubles := fun _ => rfl
  simp [toJson, DatasetSummary.toJson, HoldoutSummary.toJson, FittedLine.toJson, Assessment.toJson, Json.doubles,
    doubles, DatasetSummary.doubles, HoldoutSummary.doubles, FittedLine.doubles, Assessment.doubles,
    doubles_ofOption, List.flatMap_map, rows, predictions, coefficients]

end Doubles

namespace Report

/-- A report's document shows the report's own value exactly if its doubles are finite. -/
theorem shown_toJson_iff (report : Report) : report.toJson.shown = report.toJson ↔ report.IsFinite := by
  rw [Json.shown_eq_self_iff, doubles_toJson]
  rfl

private theorem read_renderJson {report : Report} (finite : report.IsFinite) :
    read? report.renderJson = some report := by
  rw [read?, renderJson, Json.read_pretty, report.shown_toJson_iff.mpr finite]
  exact report.ofJson_toJson

/-- A JSON report loses nothing. It is one well-formed document, and reads as the report's own value with null in the
place of every double that is not finite, so as that very value exactly if there is none. Then the report is read back
as it was, and no other such report has the same document. -/
theorem json_loses_nothing (report : Report) :
    Json.IsDocument report.renderJson.toList report.toJson.shown ∧
      Json.read? report.renderJson = some report.toJson.shown ∧
      (report.toJson.shown = report.toJson ↔ report.IsFinite) ∧
      (report.IsFinite → read? report.renderJson = some report ∧
        ∀ other : Report, other.IsFinite → other.renderJson = report.renderJson → other = report) := by
  refine ⟨Json.isDocument_pretty _, Json.read_pretty _, report.shown_toJson_iff, fun finite => ?_⟩
  refine ⟨read_renderJson finite, fun other alsoFinite same => ?_⟩
  have read := read_renderJson alsoFinite
  rw [same, read_renderJson finite] at read
  exact (Option.some.inj read).symm

/-- A report with names that need escapes, a negative zero, a double of the least kind and of the largest, and all three
kinds of absence. -/
def oddReport : Report where
  dataset := ⟨(2, 2), "\"x\\\n", "größe\x01", [⟨Float.ofBits 0x8000000000000000, 5e-324⟩]⟩
  holdout := ⟨0.1, 18446744073709551615, 1, 1⟩
  fit := ⟨⟨1.7976931348623157e308, -1e-7⟩, 1, some 1.0, none, none, none, 1e22, 0.0⟩
  assessment := ⟨[⟨3.0, 4.0, 0.30000000000000004, 123456.789⟩], 0.0, 0.0, 0.0, .undefined⟩

theorem oddReport_json : oddReport.IsFinite ∧ read? oddReport.renderJson = some oddReport := by
  have finite : oddReport.IsFinite := by decide +kernel
  exact ⟨finite, ((json_loses_nothing oddReport).2.2.2 finite).1⟩

end Report

end HoldoutLine
