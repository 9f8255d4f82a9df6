/-
MetricAudit.Rendering.Payload — reports for other programs.

The payload of some reports is a document of the report schema: which
program made it, whether all metrics are valid, and what was found for
each metric. It is checked against the schema and written as indented
JSON.
-/
import MetricAudit.Document.Schema
import MetricAudit.Metric.Report
import MetricAudit.Program

namespace MetricAudit.Rendering.Payload

/-- A text under a name, where there is one. -/
def textEntry (name : Text) (text : Option Text) : Table :=
  match text with
  | some t => [(name, .text t)]
  | none => []

/-- A list of texts. -/
def texts (ts : List Text) : Data := .list (ts.map .text)

/-- A verdict, with the texts it has. -/
def verdict (v : Verdict) : Data :=
  .table (("valid", .bool v.valid) :: (textEntry "error" v.error
    ++ textEntry "warning" v.warning ++ textEntry "success" v.success))

/-- A fixed variable. -/
def fixedVariable (v : FixedVariable) : Data :=
  .table [("symbol", .text v.symbol), ("fixed_value", .real v.value),
    ("reason", .text v.reason.text)]

/-- What was found for one metric. -/
def report (r : Report) : Data :=
  .table (("name", .text r.metric.name)
    :: ("valid", .bool r.valid)
    :: ("results", .table (r.results.map fun (field, v) => (field, verdict v)))
    :: ("variables", texts r.symbols)
    :: ("denominators", texts r.denominators)
    :: ("fixed_variables", .list (r.fixed.map fixedVariable))
    :: textEntry "case" (r.case.map fun c => c.case.name))

/-- The payload of some reports. -/
def ofReports (reports : List Report) : Data :=
  .table [("schema", .text Document.reportSchema.id),
    ("tool", .table [("name", .text Program.name), ("version", .text Program.version)]),
    ("valid", .bool (reports.all Report.valid)),
    ("metrics", .list (reports.map report))]

/-- Some reports as JSON, or what is wrong with their payload. -/
def text (reports : List Report) : Except (List Document.Fault) Text :=
  let payload := ofReports reports
  match Document.reportShape.faults payload with
  | [] => .ok (Json.print .indented payload)
  | faults => .error faults

end MetricAudit.Rendering.Payload
