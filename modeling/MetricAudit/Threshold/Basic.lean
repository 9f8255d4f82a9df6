/-
MetricAudit.Threshold.Basic — thresholds.

A threshold such as `>=10/3min` states a comparison, a magnitude and a
unit; the comparison and the unit may be absent. A magnitude is a single
number or a ratio of two, where a ratio over zero has no value.

`Threshold.text` writes a threshold in the form that it is entered in;
`Threshold.ofParts` puts one together from a sign, a magnitude and a
token.
-/
import MetricAudit.Number.Written
import MetricAudit.Text.Quoted

namespace MetricAudit

/-- The comparisons of a threshold. -/
inductive Operator where
  | atLeast
  | atMost
  | above
  | below
  | equal
  deriving DecidableEq, Repr

namespace Operator

/-- The sign a comparison is written with. -/
def sign : Operator → Text
  | .atLeast => ">="
  | .atMost => "<="
  | .above => ">"
  | .below => "<"
  | .equal => "="

/-- All comparisons, the longer signs first. -/
def all : List Operator := [.atLeast, .atMost, .above, .below, .equal]

def ofSign? (s : Text) : Option Operator := all.find? (·.sign == s)

end Operator

/-- The units of a threshold. -/
inductive MeasureUnit where
  | minutes
  | longSeconds
  | milliseconds
  | seconds
  | hours
  | percent
  deriving DecidableEq, Repr

namespace MeasureUnit

/-- The token a unit is written with. -/
def token : MeasureUnit → Text
  | .minutes => "min"
  | .longSeconds => "seg"
  | .milliseconds => "ms"
  | .seconds => "s"
  | .hours => "h"
  | .percent => "%"

/-- All units, a token before the tokens it ends with. -/
def all : List MeasureUnit :=
  [.minutes, .longSeconds, .milliseconds, .seconds, .hours, .percent]

def ofToken? (s : Text) : Option MeasureUnit := all.find? (·.token == s)

end MeasureUnit

/-- A single number, or a ratio. -/
inductive Magnitude where
  | scalar (value : Binary64)
  | ratio (numerator denominator : Binary64)
  deriving DecidableEq

namespace Magnitude

/-- The number a magnitude amounts to; a ratio over zero has none. -/
def value? : Magnitude → Option Binary64
  | .scalar x => some x
  | .ratio n d => if d.isZero then none else some (n.div d)

def isRatio : Magnitude → Bool
  | .ratio .. => true
  | .scalar _ => false

def text : Magnitude → Text
  | .scalar x => x.plain
  | .ratio n d => n.plain ++ '/' :: d.plain

end Magnitude

/-- A threshold. -/
structure Threshold where
  operator : Option Operator
  magnitude : Magnitude
  unit : Option MeasureUnit
  deriving DecidableEq

namespace Threshold

/-- The number a threshold is about. -/
def value? (t : Threshold) : Option Binary64 := t.magnitude.value?

def isRatio (t : Threshold) : Bool := t.magnitude.isRatio

/-- The threshold in its entered form, without blanks. -/
def text (t : Threshold) : Text :=
  (t.operator.map (·.sign)).getD [] ++ t.magnitude.text
    ++ (t.unit.map (·.token)).getD []

/-- Why parts make no threshold. -/
inductive PartFault where
  | unknownSign (sign : Text)
  | unknownToken (token : Text)
  deriving DecidableEq, Repr

def PartFault.message : PartFault → Text
  | .unknownSign sign => Text.quoted sign ++ " is not a valid Operator"
  | .unknownToken token => Text.quoted token ++ " is not a valid Unit"

/-- The threshold with a sign and a unit token, either of which may be
absent. An unknown sign is refused before an unknown token. -/
def ofParts (sign token : Option Text) (magnitude : Magnitude) : Except PartFault Threshold :=
  match sign, sign.bind Operator.ofSign?, token, token.bind MeasureUnit.ofToken? with
  | some s, none, _, _ => .error (.unknownSign s)
  | _, _, some s, none => .error (.unknownToken s)
  | _, operator, _, unit => .ok ⟨operator, magnitude, unit⟩

end Threshold
end MetricAudit
