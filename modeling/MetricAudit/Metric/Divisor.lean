/-
MetricAudit.Metric.Divisor — values entered for a variable.

A value must be a number, and zero is refused for a variable that the
formula divides by. Truth values count as zero and one, texts as the
numbers they write; nothing else is a number. An integer that no double
is near cannot be judged, and neither can a value that is no number and
cannot be shown in the verdict.
-/
import MetricAudit.Data.Value
import MetricAudit.Formula.Division
import MetricAudit.Number.DigitLimit
import MetricAudit.Number.Numeral
import MetricAudit.Verdict

namespace MetricAudit.Divisor

/-- What a value amounts to. -/
inductive Amount where
  | number (x : Binary64)
  | notANumber
  | outOfRange
  deriving DecidableEq

namespace Amount

/-- The nearest double, where there is one. -/
def ofInteger (n : Int) : Amount := (Binary64.ofInt? n).elim .outOfRange .number

def ofReal (x : Binary64) : Amount := if x.isNaN then .notANumber else .number x

/-- What is entered. -/
def ofText (s : Text) : Amount := (Numeral.entered? s).elim .notANumber ofReal

end Amount

/-- Read a value as a number. -/
def amount : Data → Amount
  | .bool b => .number (.ofBool b)
  | .integer n => .ofInteger n
  | .real x => .ofReal x
  | .text s => .ofText s
  | _ => .notANumber

/-- Whether a verdict can show a value: there is room for its levels,
which `shows` tells, and its integers are not too long. -/
def isShowable (shows : Data → Bool) (value : Data) : Bool :=
  shows value && value.integerDigits ≤ DigitLimit.most

/-- The verdict on a value of a variable; none for an integer out of
range, nor for what is no number and cannot be shown. -/
def check? (shows : Data → Bool) (value : Data) (symbol formula : Text) : Option Verdict :=
  match amount value with
  | .outOfRange => none
  | .notANumber =>
    if isShowable shows value then
      some (.fail ("Value " ++ value.shown ++ " for " ++ symbol
        ++ " is not a number"))
    else none
  | .number x =>
    if x.isZero && Formula.isDenominator formula symbol then
      some (.fail ("0 cannot be used for " ++ symbol
        ++ ": it is the denominator of a division"))
    else some .fine

/-- Why an integer cannot be judged. -/
def outOfRangeMessage : Text := "int too large to convert to float"

end MetricAudit.Divisor
