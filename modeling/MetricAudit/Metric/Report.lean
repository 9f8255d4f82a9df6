/-
MetricAudit.Metric.Report — the check of one metric.

`Metric.check` takes the entries of a metric through the checks of its
fields, of its formula and thresholds, and of its declared variables.
The results stand under the names of the fields, in a fixed order, with
one result for each declared symbol: the first failure of its
declarations, or the last verdict where none fails.

What follows from the entries (variables, denominators, fixed variables,
the threshold case, notes) is worked out only where the formula and both
thresholds are accepted.
-/
import MetricAudit.Formula.Check
import MetricAudit.Metric.Declaration
import MetricAudit.Metric.Field
import MetricAudit.Metric.Fixed
import MetricAudit.Settings
import MetricAudit.Threshold.Case
import MetricAudit.Threshold.Check

namespace MetricAudit

/-- A metric as it is entered. -/
structure Metric where
  name : Text
  formula : Text := []
  desired : Option Text := none
  worst : Option Text := none
  declared : List Declaration := []
  code : Text := []
  description : Text := []
  deriving DecidableEq, Repr

/-- Verdicts by the names of fields, in order. -/
abbrev Results := List (Text × Verdict)

namespace Results

/-- Add a verdict for a field. A field that already has a verdict keeps
its place, and keeps the verdict too if that is a failure. -/
def add (field : Text) (verdict : Verdict) : Results → Results
  | [] => [(field, verdict)]
  | (f, v) :: rest =>
    if f = field then (f, if v.valid then verdict else v) :: rest
    else (f, v) :: add field verdict rest

/-- Whether every verdict is valid. -/
def valid (r : Results) : Bool := r.all (·.2.valid)

/-- The errors by fields. -/
def errors (r : Results) : List (Text × Text) :=
  r.filterMap fun (field, v) => v.error.map (field, ·)

/-- The warnings by fields. -/
def warnings (r : Results) : List (Text × Text) :=
  r.filterMap fun (field, v) => v.warning.map (field, ·)

end Results

/-- What the check of a metric gives. -/
structure Report where
  metric : Metric
  results : Results
  symbols : List Text := []
  denominators : List Text := []
  fixed : List FixedVariable := []
  case : Option Threshold.Classified := none
  notes : List Text := []

namespace Report

/-- A metric is valid when every verdict is. -/
def valid (r : Report) : Bool := r.results.valid

end Report

namespace Declaration

/-- The field that a declaration is reported under. -/
def field (d : Declaration) : Text :=
  match Text.strip d.symbol with
  | [] => "variables.?"
  | symbol => "variables." ++ symbol

/-- The verdict on one declaration: on its symbol, or else on its
description. -/
def verdict (d : Declaration) : Verdict :=
  let symbol := Field.checkSymbol d.symbol
  if symbol.valid then Field.checkVariableDescription d.description else symbol

end Declaration

namespace Metric

/-- The verdict on the formula. -/
def formulaVerdict (s : Settings) (m : Metric) : Verdict :=
  Formula.check s.formulaRequired m.formula

/-- The verdict on the desired threshold. -/
def desiredVerdict (s : Settings) (m : Metric) : Verdict :=
  Threshold.check s.desiredLabel (Text.entered m.desired)

/-- The verdict on the worst case. -/
def worstVerdict (s : Settings) (m : Metric) : Verdict :=
  Threshold.check s.worstLabel (Text.entered m.worst)

/-- The verdicts on the fields that every metric has. -/
def fieldResults (s : Settings) (m : Metric) : Results :=
  [("name", Field.checkName m.name),
   ("code", Field.checkCode m.code),
   ("description", Field.checkDescription m.description),
   ("formula", m.formulaVerdict s),
   ("desired_threshold", m.desiredVerdict s),
   ("worst_case", m.worstVerdict s)]

/-- The verdicts on all fields of a metric. -/
def results (s : Settings) (m : Metric) : Results :=
  let agreement : Results := [("variables", Declaration.check m.formula m.declared)]
  m.declared.foldl (fun r d => r.add d.field d.verdict) (m.fieldResults s) ++ agreement

/-- Whether the formula and both thresholds are accepted. -/
def passesFormats (s : Settings) (m : Metric) : Bool :=
  (m.formulaVerdict s).valid && (m.desiredVerdict s).valid && (m.worstVerdict s).valid

/-- The variable that the thresholds of a metric fix, if any. -/
def fixed (m : Metric) : List FixedVariable :=
  FixedVariable.infer m.formula m.desired m.worst

/-- The case of the thresholds, where a desired one is entered. -/
def case? (m : Metric) : Option Threshold.Classified :=
  if (Text.entered m.desired).isEmpty then none
  else some (Threshold.classify m.desired m.worst)

/-- The note on a fixed variable. -/
def note (v : FixedVariable) : Text :=
  v.symbol ++ " is fixed to " ++ v.value.sixDigits ++ " (" ++ v.reason.text ++ ")"

/-- The report on a metric. -/
def check (s : Settings) (m : Metric) : Report :=
  if m.passesFormats s then
    { metric := m
      results := m.results s
      symbols := Formula.symbols m.formula
      denominators := Formula.denominators m.formula
      fixed := m.fixed
      case := m.case?
      notes := m.fixed.map note }
  else { metric := m, results := m.results s }

/-- The remarks on the check of a metric, in the order of its steps. -/
def checkRemarks (s : Settings) (m : Metric) : List Log.Remark :=
  let formats := Threshold.checkRemarks (Text.entered m.desired)
    ++ Threshold.checkRemarks (Text.entered m.worst)
  if m.passesFormats s then
    let classified :=
      if (Text.entered m.desired).isEmpty then []
      else Threshold.classifyRemarks m.desired m.worst
    formats ++ FixedVariable.inferRemarks m.formula m.desired m.worst ++ classified
  else
    formats ++ [⟨.debug, "metric " ++ Text.quoted m.name
      ++ " failed format gates; skipping inference"⟩]

end Metric
end MetricAudit
