import HoldoutLine.Assessment
import HoldoutLine.Holdout
import HoldoutLine.Regression.FittedLine

/-! # Reports

Everything that a report shows, with nothing left to compute, and the names under which its layout and
its form are asked for.
-/

namespace HoldoutLine

structure DatasetSummary where
  shape : Nat × Nat
  predictor : String
  target : String
  /-- The first rows, in dataset order. -/
  head : List Observation
  deriving DecidableEq

structure HoldoutSummary where
  testFraction : Float
  seed : UInt64
  trainRows : Nat
  testRows : Nat
  deriving DecidableEq

/-- The outcome of a whole run. -/
structure Report where
  dataset : DatasetSummary
  holdout : HoldoutSummary
  fit : FittedLine
  assessment : Assessment
  deriving DecidableEq

/-- How many of the first rows a summary shows. -/
def headRows : Nat := 5

def DatasetSummary.ofDataset (dataset : Dataset) : DatasetSummary :=
  ⟨dataset.shape, dataset.predictorName, dataset.targetName, dataset.head headRows⟩

inductive ReportStyle where
  /-- Banners and a table of predictions. -/
  | detailed
  /-- One line for each stage. -/
  | brief
  deriving DecidableEq, Repr

/-- A name that no layout has, in small letters. -/
structure UnknownStyle where
  name : String
  deriving DecidableEq, Repr

def UnknownStyle.message (unknown : UnknownStyle) : String :=
  "invalid report style: " ++ unknown.name

namespace ReportStyle

/-- The layout of a name; ASCII capitals count as small letters. -/
def ofName (name : String) : Except UnknownStyle ReportStyle :=
  match name.toLower with
  | "detailed" => .ok .detailed
  | "full" => .ok .detailed
  | "brief" => .ok .brief
  | "short" => .ok .brief
  | other => .error ⟨other⟩

def label : ReportStyle → String
  | .detailed => "detailed"
  | .brief => "brief"

end ReportStyle

inductive OutputFormat where
  | text
  | json
  deriving DecidableEq, Repr

/-- A name that no form has, in small letters. -/
structure UnknownFormat where
  name : String
  deriving DecidableEq, Repr

def UnknownFormat.message (unknown : UnknownFormat) : String :=
  "invalid output format: " ++ unknown.name

def OutputFormat.ofName (name : String) : Except UnknownFormat OutputFormat :=
  match name.toLower with
  | "text" => .ok .text
  | "txt" => .ok .text
  | "json" => .ok .json
  | other => .error ⟨other⟩

end HoldoutLine
