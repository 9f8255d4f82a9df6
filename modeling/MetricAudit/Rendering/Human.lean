/-
MetricAudit.Rendering.Human — reports for people.

Each report is a sheet with a row for every field, and lines below it for
what follows from the entries of the metric; a line at the end counts the
metrics. Names of metrics, messages and reasons stand as they are. The
names of fields are marked-up text, so that a declared symbol can bring
tags into a sheet.
-/
import MetricAudit.Metric.Report
import MetricAudit.Rendering.Renderer

namespace MetricAudit.Rendering.Human

/-- The mark of a verdict. -/
def status (v : Verdict) : Content :=
  match v.kind? with
  | some .error => [.markup "[red]✗ error[/red]"]
  | some .warning => [.markup "[yellow]! warning[/yellow]"]
  | some .success => [.markup "[green]✓ success[/green]"]
  | none => [.markup "[green]ok[/green]"]

/-- A message without the mark that its status shows. -/
def unmarked : Text → Text
  | '✓' :: ' ' :: message => message
  | message => message

/-- The headings of the columns. -/
def headings : List Text := ["Field", "Status", "Message"]

/-- The row of a field. -/
def row (field : Text) (v : Verdict) : List Content :=
  [[.markup field], status v, [.literal (unmarked (Text.entered v.message?))]]

/-- The name of a metric, also of one without a name. -/
def shownName (m : Metric) : Text :=
  match m.name with
  | [] => "<unnamed metric>"
  | name => name

/-- The sheet of a report. -/
def sheet (r : Report) : Sheet :=
  let validity : Text :=
    if r.valid then " ([green]valid[/green])" else " ([red]invalid[/red])"
  { title := [.literal (shownName r.metric), .markup validity]
    headings
    rows := r.results.map fun (field, v) => row field v }

/-- A list of symbols as a detail of a report, where there are any. -/
def symbols (label : Text) (symbols : List Text) : List Content :=
  if symbols.isEmpty then [] else [[.markup ("  " ++ label ++ ": " ++ Text.join ", " symbols)]]

/-- A fixed variable as a detail. -/
def fixedDetail (v : FixedVariable) : Content :=
  [.markup ("  Fixed: " ++ v.symbol ++ " = " ++ v.value.plain ++ " ("), .literal v.reason.text,
    .markup ")"]

/-- What follows from the entries of a metric. -/
def details (r : Report) : List Content :=
  symbols "Variables" r.symbols ++ symbols "Denominators" r.denominators
    ++ r.fixed.map fixedDetail
    ++ (r.case.map fun c => [.markup ("  Threshold case: " ++ c.case.name)]).toList

/-- What is printed of a report. -/
def ofReport (r : Report) : List Printed :=
  .sheet (sheet r) :: (details r).map .line ++ [.blank]

/-- How many metrics there are, and how many of them are invalid. -/
def count (reports : List Report) : Text :=
  let invalid := reports.filter fun r => !r.valid
  Text.ofNat reports.length ++ " metric(s) checked, " ++ Text.ofNat invalid.length
    ++ " invalid"

/-- The line at the end. -/
def summary (reports : List Report) : Content :=
  if reports.all (·.valid) then [.markup ("[green]" ++ count reports ++ "[/green]")]
  else [.markup ("[red]" ++ count reports ++ "[/red]")]

/-- What is printed of some reports. -/
def printed (reports : List Report) : List Printed :=
  reports.flatMap ofReport ++ [.line (summary reports)]

/-- Some reports for people, as a renderer prints them. -/
def text (renderer : Renderer) (color : Bool) (width : Nat) (reports : List Report) :
    Except Refusal Text := do
  let parts ← (printed reports).mapM (renderer.print color width)
  return Text.stripEnd parts.flatten

end MetricAudit.Rendering.Human
