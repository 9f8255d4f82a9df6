/-
MetricAudit.Threshold.Check — thresholds typed into a form.

`examine` says what there is to say about a threshold text: it is blank,
its comparison is misspelt, its ratio lacks a side, its body is no
number, or it is a threshold. A misspelling is reported before an
incomplete ratio, and that before a body that is no number.

A finding becomes a verdict under the label of its form field. A blank
text is valid with a warning.
-/
import MetricAudit.Threshold.Parse
import MetricAudit.Verdict

namespace MetricAudit.Threshold

/-- What there is to say about a threshold text. The text quoted back is
what follows the comparison. -/
inductive Finding where
  | blank
  | misspelt (typo : Typo)
  | incompleteRatioWithUnit (fragment : Text) (unit : MeasureUnit)
  | incompleteRatio (fragment : Text)
  | notANumber (fragment : Text)
  | accepted (threshold : Threshold)
  deriving DecidableEq

/-- A ratio is expected and not there. -/
def Scan.lacksSide (s : Scan) : Bool :=
  s.hasSlash && !Magnitude.isCompleteRatio s.body

/-- Examine a threshold text. -/
def examine (entry : Text) : Finding :=
  let s := scan entry
  if s.text.isEmpty then .blank
  else
    match s.lead, s.unit with
    | .typo t, _ => .misspelt t
    | _, some unit =>
      if s.lacksSide then .incompleteRatioWithUnit s.fragment unit
      else judge s
    | _, none =>
      if s.lacksSide then .incompleteRatio s.fragment else judge s
where
  /-- The stripped text is read as a threshold. -/
  judge (s : Scan) : Finding :=
    match parse? s.text with
    | some t => .accepted t
    | none => .notANumber s.fragment

/-- The word for an accepted threshold. -/
def praise (t : Threshold) : Text :=
  match t.operator, t.isRatio, t.unit with
  | some _, true, _ => "✓ Valid threshold with ratio and operator"
  | some _, false, _ => "✓ Valid threshold with operator"
  | none, true, _ => "✓ Valid threshold with ratio"
  | none, false, some _ => "✓ Valid threshold with unit"
  | none, false, none => "✓ Valid threshold"

/-- A finding as a verdict on the field `label`. -/
def Finding.verdict (label : Text) : Finding → Verdict
  | .blank =>
    .caution ("The " ++ label ++ " is optional but recommended for evaluations")
  | .misspelt typo =>
    .fail ("Invalid operator \"" ++ typo.sign ++ "\" in " ++ label ++ ". Use \""
      ++ typo.meant.sign ++ "\" instead (e.g. \"" ++ typo.meant.sign
      ++ "10/1min\")")
  | .incompleteRatioWithUnit fragment unit =>
    .fail ("Invalid format \"" ++ fragment ++ "\" in " ++ label
      ++ ". A ratio with a unit needs both numbers, e.g. \"10/1" ++ unit.token
      ++ "\"")
  | .incompleteRatio fragment =>
    .fail ("Invalid ratio format \"" ++ fragment ++ "\" in " ++ label
      ++ ". Use \"<number>/<number>\", e.g. \"10/20\"")
  | .notANumber fragment =>
    .fail ("Invalid numeric value \"" ++ fragment ++ "\" in " ++ label)
  | .accepted t => .praise t.praise

/-- The verdict on a threshold text in the field `label`. -/
def check (label entry : Text) : Verdict := (examine entry).verdict label

/-- The remarks on the way to the verdict: a text that no earlier finding
applies to is read, perhaps in vain. -/
def checkRemarks (entry : Text) : List Log.Remark :=
  match examine entry with
  | .notANumber _ => parseRemarks entry
  | _ => []

end MetricAudit.Threshold
