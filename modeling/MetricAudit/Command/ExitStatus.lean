/-
MetricAudit.Command.ExitStatus — how a run of the program ends.
-/
import MetricAudit.Text.Basic

namespace MetricAudit.Command

/-- The ways in which a run can end. -/
inductive ExitStatus where
  | success
  | generic
  | invalid
  | malformedFile
  | missingFile
  | configuration
  deriving DecidableEq, Repr

namespace ExitStatus

/-- The number that the system is given. -/
def code : ExitStatus → Nat
  | .success => 0
  | .generic => 1
  | .invalid => 2
  | .malformedFile => 65
  | .missingFile => 66
  | .configuration => 78

/-- What it means. -/
def meaning : ExitStatus → Text
  | .success => "success"
  | .generic => "generic error (unexpected failure)"
  | .invalid => "a metric or expression failed validation"
  | .malformedFile => "malformed metric definition file"
  | .missingFile => "metric definition file missing"
  | .configuration => "configuration error"

/-- The ways, by their numbers. -/
def all : List ExitStatus :=
  [.success, .generic, .invalid, .malformedFile, .missingFile, .configuration]

end ExitStatus
end MetricAudit.Command
