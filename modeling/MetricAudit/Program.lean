/-
MetricAudit.Program — how the program calls itself.
-/
import MetricAudit.Text.Basic

namespace MetricAudit.Program

/-- The name under which the program is run. -/
def name : Text := "metricgate"

/-- The version of the program. -/
def version : Text := "0.1.0"

end MetricAudit.Program
