/-
MetricAudit.Text.Lines — ends of lines.

Lines end with a newline, a carriage return, or both in turn. Before a
text is read its line ends are made newlines: every one of them, or only
the double ones.
-/
import MetricAudit.Text.Basic

namespace MetricAudit.Text

/-- A text with a newline for every carriage return and newline in
turn. -/
def joinDoubleEnds : Text → Text
  | [] => []
  | '\r' :: '\n' :: s => '\n' :: joinDoubleEnds s
  | c :: s => c :: joinDoubleEnds s

/-- A text with a newline for every line end. -/
def unifyEnds (s : Text) : Text :=
  (joinDoubleEnds s).map fun c => if c = '\r' then '\n' else c

end MetricAudit.Text
