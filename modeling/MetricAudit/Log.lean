/-
MetricAudit.Log — remarks on the course of the work.

A remark has a level and a text. Remarks are values: what a step has to
remark is a function of its input, beside the function that gives its
result, and the program decides which levels it writes.
-/
import MetricAudit.Text.Basic

namespace MetricAudit.Log

/-- The gravity of a remark. -/
inductive Level where
  | debug
  | info
  | warning
  | error
  deriving DecidableEq, Repr

/-- Levels by gravity. -/
def Level.rank : Level → Nat
  | .debug => 0
  | .info => 1
  | .warning => 2
  | .error => 3

def Level.name : Level → Text
  | .debug => "DEBUG"
  | .info => "INFO"
  | .warning => "WARNING"
  | .error => "ERROR"

/-- One remark. -/
structure Remark where
  level : Level
  text : Text
  deriving DecidableEq, Repr

/-- A remark as a line, without its end. -/
def Remark.line (r : Remark) : Text := r.level.name ++ ": " ++ r.text

/-- The remarks of at least the level `least`. -/
def atLeast (least : Level) (remarks : List Remark) : List Remark :=
  remarks.filter fun r => least.rank ≤ r.level.rank

end MetricAudit.Log
