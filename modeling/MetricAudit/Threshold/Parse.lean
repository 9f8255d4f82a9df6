/-
MetricAudit.Threshold.Parse — reading magnitudes and thresholds.

A magnitude without blanks is a ratio of two unsigned numerals, or a
single signed numeral; in either case every number is finite. A
threshold text is read by scanning it and reading its body as a
magnitude; a misspelt comparison and a blank text give nothing.
-/
import MetricAudit.Log
import MetricAudit.Number.Numeral
import MetricAudit.Text.Quoted
import MetricAudit.Threshold.Scan

namespace MetricAudit

namespace Numeral

/-- A numeral of digits with an optional fractional part. -/
def isUnsigned (s : Text) : Bool := (unsigned? s).isSome

/-- The value of a numeral, where it is finite. -/
def finiteValue? (n : Numeral) : Option Binary64 :=
  if n.value.isFinite then some n.value else none

end Numeral

namespace Magnitude

/-- Read `left` over `right`. -/
def ofSides? (left right : Text) : Option Magnitude := do
  let n ← Numeral.unsigned? left
  let d ← Numeral.unsigned? right
  return .ratio (← n.finiteValue?) (← d.finiteValue?)

/-- Read a text without blanks as a ratio, at its first slash, or as a
single number. -/
def parse? (body : Text) : Option Magnitude :=
  match body.dropWhile (· != '/') with
  | _ :: right => ofSides? (body.takeWhile (· != '/')) right
  | [] => do
    let n ← Numeral.signed? body
    return .scalar (← n.finiteValue?)

/-- Whether a text is one complete ratio. -/
def isCompleteRatio (body : Text) : Bool :=
  match parse? body with
  | some m => m.isRatio
  | none => false

end Magnitude

namespace Threshold

/-- What the pieces of a text say. -/
def Scan.threshold? (s : Scan) : Option Threshold :=
  match s.lead with
  | .typo _ => none
  | lead => (Magnitude.parse? s.body).map (⟨lead.operator?, ·, s.unit⟩)

/-- Read a threshold such as `>=10/3min`, `0%` or `20 min`. -/
def parse? (entry : Text) : Option Threshold := (scan entry).threshold?

/-- The remark on a text that is read in vain. A blank text and a misspelt
comparison go without. -/
def parseRemarks (entry : Text) : List Log.Remark :=
  let s := scan entry
  match s.lead with
  | .typo _ => []
  | _ =>
    if s.text.isEmpty || s.threshold?.isSome then []
    else [⟨.debug, "unparseable threshold: " ++ Text.quoted s.text⟩]

end Threshold
end MetricAudit
