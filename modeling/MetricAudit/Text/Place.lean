/-
MetricAudit.Text.Place — places in a text.

A reader that stops names the text it has not read. `Place.of` turns that
into an offset, a line and a column: lines are ended by newlines and
counted from one, columns are counted from one within their line, and
offsets from zero.
-/
import MetricAudit.Text.Basic

namespace MetricAudit.Text

/-- Where a character stands in a text. -/
structure Place where
  offset : Nat
  line : Nat
  column : Nat
  deriving DecidableEq, Repr

/-- The place in `whole` where its end part `rest` starts. -/
def Place.of (whole rest : Text) : Place :=
  let offset := whole.length - rest.length
  let before := whole.take offset
  { offset
    line := before.count '\n' + 1
    column := (before.reverse.takeWhile (· != '\n')).length + 1 }

end MetricAudit.Text
