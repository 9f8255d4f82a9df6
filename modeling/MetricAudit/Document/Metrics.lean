/-
MetricAudit.Document.Metrics — the metrics of a document.

`Document.metrics` takes a document of the right shape apart into
metrics, in their order. An absent or empty code, description or formula
is the empty text; an absent threshold stays absent.
-/
import MetricAudit.Data.NestingLimit
import MetricAudit.Document.Shape
import MetricAudit.Metric.Report
import MetricAudit.Number.DigitLimit

namespace MetricAudit.Document

/-- The text of a field, where it is one. -/
def textField? (entries : Table) (name : Text) : Option Text :=
  match entries.get? name with
  | some (.text s) => some s
  | _ => none

/-- The items of a field, where it is a list. -/
def listField (entries : Table) (name : Text) : List Data :=
  match entries.get? name with
  | some (.list values) => values
  | _ => []

/-- The entries of a value, where it is a table. -/
def entriesOf : Data → Table
  | .table entries => entries
  | _ => []

/-- The declared variable that a value describes. -/
def declaration (value : Data) : Declaration :=
  let entries := entriesOf value
  { symbol := Text.entered (textField? entries "symbol")
    description := Text.entered (textField? entries "description") }

/-- The metric that a value describes. -/
def metric (value : Data) : Metric :=
  let entries := entriesOf value
  { name := Text.entered (textField? entries "name")
    formula := Text.entered (textField? entries "formula")
    desired := textField? entries "desired_threshold"
    worst := textField? entries "worst_case"
    declared := (listField entries "variables").map declaration
    code := Text.entered (textField? entries "code")
    description := Text.entered (textField? entries "description") }

/-- The values that describe the metrics of a document. -/
def metricValues (document : Data) : List Data :=
  match (entriesOf document).get? "metrics" with
  | some (.list values) => values
  | _ => [document]

/-- Why a document is refused. -/
inductive Refusal where
  | misshapen (fault : Fault)
  /-- An integer in the document is too long to be shown. -/
  | integerTooLong
  /-- The document nests too deep to be shown. -/
  | tooDeep (task : NestingLimit.Task)

/-- The metrics of a document. A fault is reported where the document can
be shown, which `shows` and the limit of digits decide. -/
def metrics (shows : Data → Bool) (document : Data) : Except Refusal (List Metric) :=
  match fault? document with
  | none => .ok ((metricValues document).map metric)
  | some fault =>
    if !shows document then .error (.tooDeep .showData)
    else if DigitLimit.most < document.integerDigits then .error .integerTooLong
    else .error (.misshapen fault)

/-- A fault of the document from `source` in words. -/
def Fault.message (source : Text) (f : Fault) : Text :=
  "invalid metric definitions in " ++ source ++ " at " ++ f.location.text ++ ": "
    ++ f.complaint.message

end MetricAudit.Document
