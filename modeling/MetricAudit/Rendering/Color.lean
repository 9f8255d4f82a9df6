/-
MetricAudit.Rendering.Color — whether a report is colored.

A refusal of color wins over a demand for it; without either, a report
is colored where it goes to a terminal.
-/
namespace MetricAudit.Rendering.Color

/-- Whether a report is colored. `destination` tells whether it is
bound for a terminal, `terminal` whether that terminal shows colors. -/
def wanted (demanded refused destination terminal : Bool) : Bool :=
  !refused && (demanded || (destination && terminal))

end MetricAudit.Rendering.Color
