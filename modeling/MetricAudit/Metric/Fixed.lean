/-
MetricAudit.Metric.Fixed — variables whose value the thresholds fix.

Against the formula `A/B` a threshold `>=10/3min` counts `A` per three
minutes, so `B` is not entered but is the constant 3. The denominator of
the first direct division of a formula is fixed

* to the denominator of the desired ratio, else of the worst-case ratio,
  where either threshold is stated in minutes;
* to the denominator that both ratios share, where the desired one is
  zero.
-/
import MetricAudit.Formula.Division
import MetricAudit.Threshold.Parse

namespace MetricAudit

/-- Why a variable is fixed. -/
inductive FixedReason where
  | desired (entry : Text)
  | worst (entry : Text)
  | shared (denominator : Binary64)
  deriving DecidableEq

/-- A variable with its fixed value. -/
structure FixedVariable where
  symbol : Text
  value : Binary64
  reason : FixedReason
  deriving DecidableEq

namespace FixedReason

def text : FixedReason → Text
  | .desired entry => "fixed denominator from desired threshold (" ++ entry ++ ")"
  | .worst entry => "fixed denominator from worst-case threshold (" ++ entry ++ ")"
  | .shared x => "shared denominator across thresholds (" ++ x.plain ++ ")"

end FixedReason

namespace FixedVariable

/-- The sides of a threshold that is a ratio. -/
def ratio? (t : Option Threshold) : Option (Binary64 × Binary64) :=
  match t with
  | some ⟨_, .ratio n d, _⟩ => some (n, d)
  | _ => none

/-- Whether a threshold is stated in minutes. -/
def inMinutes (t : Option Threshold) : Bool :=
  match t with
  | some t => t.unit = some .minutes
  | none => false

/-- The value that two thresholds fix, and why. -/
def value? (desired worst : Text) : Option (Binary64 × FixedReason) :=
  let d := Threshold.parse? desired
  let w := Threshold.parse? worst
  let timed := inMinutes d || inMinutes w
  match ratio? d, ratio? w with
  | some (n, m), some (_, m') =>
    if timed then some (m, .desired desired)
    else if n.isZero && m.equals m' then some (m, .shared m)
    else none
  | some (_, m), none => if timed then some (m, .desired desired) else none
  | none, some (_, m) => if timed then some (m, .worst worst) else none
  | none, none => none

/-- The variable of a formula that two threshold texts fix. -/
def infer? (formula : Text) (desired worst : Option Text) : Option FixedVariable :=
  if (Text.strip formula).isEmpty then none
  else do
    let (value, reason) ←
      value? (Text.strip (Text.entered desired)) (Text.strip (Text.entered worst))
    let (_, denominator) ← Formula.directDivision? formula
    return ⟨denominator, value, reason⟩

/-- The variables that are fixed: at most one. -/
def infer (formula : Text) (desired worst : Option Text) : List FixedVariable :=
  (infer? formula desired worst).toList

/-- The fixed variable with a symbol. -/
def find? (symbol formula : Text) (desired worst : Option Text) :
    Option FixedVariable :=
  (infer formula desired worst).find? (·.symbol == symbol)

/-- The remarks on the inference: texts read in vain, and the variable
that is fixed. -/
def inferRemarks (formula : Text) (desired worst : Option Text) : List Log.Remark :=
  if (Text.strip formula).isEmpty then []
  else
    let found := (infer formula desired worst).map fun v =>
      (⟨.debug, "variable " ++ v.symbol ++ " fixed to " ++ v.value.shown ++ ": "
        ++ v.reason.text⟩ : Log.Remark)
    Threshold.parseRemarks (Text.entered desired)
      ++ Threshold.parseRemarks (Text.entered worst) ++ found

end FixedVariable
end MetricAudit
