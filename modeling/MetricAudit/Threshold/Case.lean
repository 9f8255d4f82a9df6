/-
MetricAudit.Threshold.Case — the cases of a pair of thresholds.

Scoring distinguishes a few kinds of pairs of a desired and a worst-case
threshold. `Case.holds` is the condition of a case on two thresholds, and
`Case.order` the order in which the cases are tried: the two ratio cases
come before the others, and a minimum of zero after a maximum.

`classify` names the case of two texts. A desired 0 or 1 without unit and
without worst case is the simple binary case, and so is, with a warning,
every pair that no case fits; it then has no worst case.
-/
import MetricAudit.Threshold.Parse

namespace MetricAudit.Threshold

/-- The kinds of threshold pairs. -/
inductive Case where
  | simpleBinary
  | ratioWithMinimum
  | inverseRatioWithMaximum
  | time
  | zeroWithMaximum
  | percentageWithMaximum
  | numericWithMaximum
  | numericWithMinimum
  deriving DecidableEq, Repr

namespace Case

def name : Case → Text
  | .simpleBinary => "simple_binary"
  | .ratioWithMinimum => "ratio_with_min_threshold"
  | .inverseRatioWithMaximum => "inverse_ratio_with_max"
  | .time => "time_threshold"
  | .zeroWithMaximum => "zero_with_max_threshold"
  | .percentageWithMaximum => "percentage_with_max"
  | .numericWithMaximum => "numeric_with_max"
  | .numericWithMinimum => "numeric_with_min"

/-- A ratio whose sides satisfy `p`. -/
def ratioWith (p : Binary64 → Binary64 → Bool) (t : Threshold) : Bool :=
  match t.magnitude with
  | .ratio n d => p n d
  | .scalar _ => false

/-- The number a threshold is about is `x`. -/
def amountsTo (x : Binary64) (t : Threshold) : Bool :=
  match t.value? with
  | some y => y.equals x
  | none => false

/-- Either sign of zero. -/
def isZero (t : Threshold) : Bool := amountsTo (.zero false) t

/-- The condition of a case on a desired and a worst-case threshold. The
simple binary case is not for two thresholds. -/
def holds (d w : Threshold) : Case → Bool
  | .simpleBinary => false
  | .ratioWithMinimum =>
    d.operator = some .atLeast && ratioWith (fun n m => !n.isZero && !m.isZero) d
      && d.unit.isSome && ratioWith (fun n _ => n.isZero) w
  | .inverseRatioWithMaximum =>
    ratioWith (fun n m => n.isZero && !m.isZero) d
      && w.operator = some .atLeast && ratioWith (fun n _ => !n.isZero) w
  | .time =>
    d.operator.isNone && d.unit = some .minutes
      && w.operator.isSome && w.unit = some .minutes
  | .zeroWithMaximum =>
    isZero d && w.operator = some .atLeast
      && d.unit = some .longSeconds && w.unit = some .longSeconds
  | .percentageWithMaximum =>
    isZero d && w.operator = some .atLeast
      && d.unit = some .percent && w.unit = some .percent
  | .numericWithMaximum =>
    d.operator.isNone && d.unit.isNone && w.unit.isNone
      && w.operator = some .atLeast
  | .numericWithMinimum =>
    d.operator.isNone && d.unit.isNone && w.unit.isNone && isZero w

/-- The order in which the cases of two thresholds are tried. -/
def order : List Case :=
  [.ratioWithMinimum, .inverseRatioWithMaximum, .time, .zeroWithMaximum,
   .percentageWithMaximum, .numericWithMaximum, .numericWithMinimum]

/-- The case of a desired threshold without a worst case. -/
def ofDesired? (d : Threshold) : Option Case :=
  if d.unit.isNone && (isZero d || amountsTo .one d) then some .simpleBinary
  else none

/-- The case of two thresholds, either of which may be absent. -/
def ofPair? : Option Threshold → Option Threshold → Option Case
  | some d, some w => order.find? (holds d w)
  | some d, none => ofDesired? d
  | none, _ => none

end Case

/-- A pair of thresholds with its case. -/
structure Classified where
  case : Case
  desired : Option Threshold
  worst : Option Threshold
  deriving DecidableEq

/-- The case of a pair, and the simple binary case for want of one. -/
def classifyPair (d w : Option Threshold) : Classified :=
  match Case.ofPair? d w with
  | some case => ⟨case, d, w⟩
  | none => ⟨.simpleBinary, d, none⟩

/-- The case of two texts. -/
def classify (desired worst : Option Text) : Classified :=
  classifyPair (parse? (Text.entered desired)) (parse? (Text.entered worst))

/-- The remarks on a classification: texts read in vain, and a pair that
no case fits. -/
def classifyRemarks (desired worst : Option Text) : List Log.Remark :=
  let d := Text.entered desired
  let w := Text.entered worst
  let unmatched : List Log.Remark :=
    match Case.ofPair? (parse? d) (parse? w) with
    | some _ => []
    | none =>
      [⟨.warning, "no threshold case matched desired=" ++ Text.quoted? desired
        ++ " worst=" ++ Text.quoted? worst ++ "; using simple binary"⟩]
  parseRemarks d ++ parseRemarks w ++ unmatched

end MetricAudit.Threshold
