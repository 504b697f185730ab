import HoldoutLine.Proofs.Assessment.Measures
import HoldoutLine.Proofs.Binary64.Extended
import HoldoutLine.Proofs.Regression.Training

/-! # What a fit says of its columns

A fit is the trained line with six diagnostics, each with guards of its own. A guard that does not hold leaves its
diagnostic out and fails nothing. There is a residual standard error exactly with more than two rows and a residual sum
that has not overflowed (`HasResidualError`), and a p-value exactly if the standard error of the slope is finite and
positive besides (`AsksDistribution`): `slopeSignificance_cases` says so, whatever the distributions. The guards against
columns that do not match or are too short never apply, since training has compared the lengths and counted the rows.
`ofColumns_diagnoses` collects what a fit says of the columns it was fitted to (`Diagnoses`).
-/

namespace HoldoutLine.FittedLine

open Binary64

section Significance

variable {x : List Float} {residual : Float}

/-- More than two rows, and a residual standard error that has not overflowed. -/
structure HasResidualError (x : List Float) (residual : Float) : Prop where
  enough : 2 < x.length
  finite : (residualError x residual).isFinite = true

/-- A standard error of the slope that the slope can be divided by. -/
structure AsksDistribution (x : List Float) (residual : Float) : Prop extends HasResidualError x residual where
  error_finite : (slopeError x residual).isFinite = true
  error_pos : 0.0 < slopeError x residual

private theorem length_le_two_iff (x : List Float) : Float.ofNat x.length ≤ 2.0 ↔ x.length ≤ 2 := by
  rw [two_eq_ofNat]
  exact ofNat_le_ofNat_iff (by norm_num)

/-- What is said of a slope, whatever the distributions: nothing, the residual standard error alone, or a p-value with
it. -/
theorem slopeSignificance_cases (x : List Float) (line : Line Float) (residual : Float) :
    (¬HasResidualError x residual ∧ ∀ distribution, slopeSignificance distribution x line residual = (none, none)) ∨
      (HasResidualError x residual ∧ ¬AsksDistribution x residual ∧ ∀ distribution,
        slopeSignificance distribution x line residual = (some (residualError x residual), none)) ∨
      (AsksDistribution x residual ∧ ∀ distribution, slopeSignificance distribution x line residual =
        (some (residualError x residual),
          StudentT.twoSided distribution (freedom x) (line.slope / slopeError x residual))) := by
  simp only [slopeSignificance, length_le_two_iff]
  by_cases few : x.length ≤ 2
  · exact .inl ⟨fun has => has.enough.not_ge few, fun _ => if_pos few⟩
  simp only [if_neg few]
  by_cases finite : (residualError x residual).isFinite = true
  case neg =>
    refine .inl ⟨fun has => finite has.finite, fun _ => if_pos ?_⟩
    rw [Bool.not_eq_true _ |>.mp finite, Bool.not_false]
  have has : HasResidualError x residual := ⟨not_le.mp few, finite⟩
  simp only [finite, Bool.not_true, if_neg Bool.false_ne_true]
  right
  by_cases errorFinite : (slopeError x residual).isFinite = true
  case neg =>
    refine .inl ⟨has, fun asks => errorFinite asks.error_finite, fun _ => if_pos ?_⟩
    rw [Bool.not_eq_true _ |>.mp errorFinite, Bool.not_false, Bool.true_or]
  simp only [errorFinite, Bool.not_true, Bool.false_or, decide_eq_true_iff]
  by_cases positive : 0.0 < slopeError x residual
  · right
    exact ⟨⟨has, errorFinite, positive⟩, fun _ => if_neg ((not_le_iff_lt errorFinite isFinite_zero).mpr positive)⟩
  · left
    refine ⟨has, fun asks => positive asks.error_pos, fun _ => if_pos ?_⟩
    exact (not_lt_iff_le isFinite_zero errorFinite).mp positive

theorem one_le_freedom (enough : 2 < x.length) : 1.0 ≤ freedom x := one_le_ofNat_sub_two enough

/-- There is a distribution for what more than two rows leave. -/
theorem distribution_freedom (enough : 2 < x.length) :
    StudentT.distribution (freedom x) = some (StudentT.probabilityUpTo (freedom x)) := by
  have one_le := one_le_freedom enough
  have number := isNaN_of_le isFinite_one one_le
  have positive : ¬freedom x ≤ 0.0 := by
    intro le
    obtain ⟨-, lower, upper⟩ := isFinite_of_between isFinite_one one_le isFinite_zero le
    rw [real_one] at lower
    rw [real_zero] at upper
    linarith
  rw [StudentT.distribution, number, Bool.false_or, if_neg (by rwa [decide_eq_true_iff])]

end Significance

section Fits

variable {line : Line Float} {x y : List Float}

/-- What a fit of a line says of the columns that the line was trained on, with one residual sum in all of it. -/
structure Diagnoses (fit : FittedLine) (line : Line Float) (x y : List Float) : Prop where
  line_eq : fit.line = line
  rows_eq : fit.rows = x.length
  two_le_rows : 2 ≤ fit.rows
  r2_iff : ∀ share, fit.r2 = some share ↔ Metrics.rSquared y (fittedValues line x) = .ok share
  r2_isSome_iff : fit.r2.isSome = true ↔ ∃ share, Metrics.rSquared y (fittedValues line x) = .ok share
  adjustedR2_isSome_iff : fit.adjustedR2.isSome = true ↔ fit.r2.isSome = true
  of_two_rows : fit.rows = 2 → fit.sigma = none ∧ fit.pValue = none
  sigma_iff : ∀ sigma, fit.sigma = some sigma ↔ HasResidualError x (residualSum line x y) ∧
    sigma = (residualSum line x y / (Float.ofNat x.length - 2.0)).sqrt
  sigma_finite : ∀ sigma, fit.sigma = some sigma → sigma.isFinite = true
  sigma_of_pValue : fit.pValue.isSome = true → fit.sigma.isSome = true
  pValue_isSome_iff : fit.pValue.isSome = true ↔ AsksDistribution x (residualSum line x y)
  rmse_some : Metrics.rootMeanSquaredError? y (fittedValues line x) = some fit.rmse
  rmse_eq : fit.rmse = (residualSum line x y / Float.ofNat x.length).sqrt
  aic_eq : fit.aic = Metrics.akaike (residualSum line x y) x.length 2

/-- The two diagnostics of the slope, by what there is. -/
theorem diagnose_significance (line : Line Float) (x y : List Float) :
    (∀ sigma, (diagnose line x y).sigma = some sigma ↔ HasResidualError x (residualSum line x y) ∧
        sigma = residualError x (residualSum line x y)) ∧
      ((diagnose line x y).pValue.isSome = true ↔ AsksDistribution x (residualSum line x y)) := by
  have significance : ((diagnose line x y).sigma, (diagnose line x y).pValue) =
      slopeSignificance StudentT.distribution x line (residualSum line x y) := rfl
  rcases slopeSignificance_cases x line (residualSum line x y) with
    ⟨lacks, given⟩ | ⟨has, flat, given⟩ | ⟨asks, given⟩
  · obtain ⟨sigma, pValue⟩ := Prod.mk.inj (significance.trans (given _))
    rw [sigma, pValue]
    exact ⟨fun _ => iff_of_false nofun fun has => lacks has.1,
      iff_of_false nofun fun asks => lacks asks.toHasResidualError⟩
  · obtain ⟨sigma, pValue⟩ := Prod.mk.inj (significance.trans (given _))
    rw [sigma, pValue]
    exact ⟨fun _ => by rw [Option.some_inj, and_iff_right has, eq_comm], iff_of_false nofun flat⟩
  · obtain ⟨sigma, pValue⟩ := Prod.mk.inj (significance.trans (given _))
    rw [sigma, pValue, StudentT.twoSided, distribution_freedom asks.enough]
    exact ⟨fun _ => by rw [Option.some_inj, and_iff_right asks.toHasResidualError, eq_comm], iff_of_true rfl asks⟩

private theorem rSquared?_eq_some_iff {actual predicted : List Float} (enough : 2 ≤ actual.length)
    (share : Float) :
    Metrics.rSquared? actual predicted = some share ↔ Metrics.rSquared actual predicted = .ok share := by
  rw [Metrics.rSquared?, if_neg enough.not_gt]
  cases Metrics.rSquared actual predicted with
  | error => exact iff_of_false nofun nofun
  | ok => rw [Except.toOption, Option.some_inj, Except.ok.injEq]

private theorem rootMeanSquaredError?_fittedValues (line : Line Float) (same : x.length = y.length)
    (enough : 2 ≤ x.length) :
    Metrics.rootMeanSquaredError? y (fittedValues line x) =
      some (residualSum line x y / Float.ofNat x.length).sqrt := by
  have comparable : Metrics.comparable y (fittedValues line x) = true := by
    rw [Metrics.comparable_iff, fittedValues, List.length_map, ← List.length_pos_iff]
    omega
  rw [Metrics.rootMeanSquaredError?, Metrics.meanSquaredError?, if_pos comparable, ← same]
  rfl

private theorem diagnose_diagnoses (trained : Line.train x y = .ok line) :
    (diagnose line x y).Diagnoses line x y := by
  obtain ⟨⟨same, -⟩, enough⟩ := Line.comparable_of_train trained
  obtain ⟨sigma, pValue⟩ := diagnose_significance line x y
  have r2 : ∀ share, (diagnose line x y).r2 = some share ↔ Metrics.rSquared y (fittedValues line x) = .ok share :=
    rSquared?_eq_some_iff (same ▸ enough)
  have rmse := rootMeanSquaredError?_fittedValues line same enough
  have rmse_eq : (diagnose line x y).rmse = (residualSum line x y / Float.ofNat x.length).sqrt := by
    rw [diagnose, rmse]
    rfl
  constructor
  case line_eq => rfl
  case rows_eq => rfl
  case two_le_rows => exact enough
  case r2_iff => exact r2
  case r2_isSome_iff => rw [Option.isSome_iff_exists]; exact exists_congr r2
  case adjustedR2_isSome_iff => rw [diagnose, Option.isSome_map]
  case of_two_rows =>
    intro two
    have lacks : ¬HasResidualError x (residualSum line x y) := fun has => has.enough.ne' two
    refine ⟨Option.eq_none_iff_forall_ne_some.mpr fun found given => lacks ((sigma found).mp given).1, ?_⟩
    rw [← Option.not_isSome_iff_eq_none, pValue]
    exact fun asks => lacks asks.toHasResidualError
  case sigma_iff => exact sigma
  case sigma_finite =>
    intro found given
    obtain ⟨has, rfl⟩ := (sigma found).mp given
    exact has.finite
  case sigma_of_pValue =>
    intro given
    exact Option.isSome_of_eq_some ((sigma _).mpr ⟨(pValue.mp given).toHasResidualError, rfl⟩)
  case pValue_isSome_iff => exact pValue
  case rmse_some => rw [rmse, rmse_eq]
  case rmse_eq => exact rmse_eq
  case aic_eq => rfl

/-- Fitting fails exactly as training does. Otherwise the fit is the trained line with diagnostics that are there
whenever what they say is defined. Observations are fitted as their columns are. -/
theorem ofColumns_diagnoses (x y : List Float) :
    (∀ cause, ofColumns x y = .error cause ↔ Line.train x y = .error cause) ∧
      (∀ line, Line.train x y = .ok line → ∃ fit, ofColumns x y = .ok fit ∧ fit.Diagnoses line x y) ∧
      ∀ rows : List Observation, (rows.map fun row => (row.predictor, row.target)).unzip = (x, y) →
        ofObservations rows = ofColumns x y := by
  refine ⟨?_, ?_, ?_⟩
  · intro cause
    rw [ofColumns]
    cases Line.train x y with
    | error found => rw [Except.map, Except.error.injEq, Except.error.injEq]
    | ok line => exact iff_of_false (by simp [Except.map]) (by simp)
  · intro line trained
    refine ⟨diagnose line x y, ?_, diagnose_diagnoses trained⟩
    rw [ofColumns, trained]
    rfl
  · intro rows columns
    rw [List.unzip_eq_map, List.map_map, List.map_map] at columns
    obtain ⟨rfl, rfl⟩ := Prod.mk.inj columns
    rfl

def scatteredRows : List Observation := [⟨1.0, 1.0⟩, ⟨2.0, 3.0⟩, ⟨3.0, 2.0⟩, ⟨4.0, 4.0⟩]

def scatteredPredictors : List Float := scatteredRows.map Observation.predictor

def scatteredTargets : List Float := scatteredRows.map Observation.target

def scatteredLine : Line Float := ⟨0.5, 0.8⟩

theorem asksDistribution_scattered :
    AsksDistribution scatteredPredictors (residualSum scatteredLine scatteredPredictors scatteredTargets) where
  enough := by decide
  finite := by decide +kernel
  error_finite := by decide +kernel
  error_pos := by decide +kernel

theorem scatteredRows_diagnosed :
    Line.train scatteredPredictors scatteredTargets = .ok scatteredLine ∧
      ∃ fit, ofObservations scatteredRows = .ok fit ∧
        fit.Diagnoses scatteredLine scatteredPredictors scatteredTargets ∧ fit.sigma.isSome = true ∧
        fit.pValue.isSome = true := by
  have trained : Line.train scatteredPredictors scatteredTargets = .ok scatteredLine := by decide +kernel
  obtain ⟨-, diagnosed, columns⟩ := ofColumns_diagnoses scatteredPredictors scatteredTargets
  obtain ⟨fit, made, diagnoses⟩ := diagnosed scatteredLine trained
  have pValue := diagnoses.pValue_isSome_iff.mpr asksDistribution_scattered
  exact ⟨trained, fit, (columns scatteredRows rfl).trans made, diagnoses, diagnoses.sigma_of_pValue pValue, pValue⟩

end Fits

end HoldoutLine.FittedLine
