/-
MetricAudit.Verdict — what a check says about an entry.

A verdict holds up to three texts. An entry is valid exactly when there
is no error text; a warning and a success are advice beside it. The one
message to show is the first of error, warning and success that is there
and not empty.
-/
import MetricAudit.Text.Basic

namespace MetricAudit

/-- The outcome of a check. -/
structure Verdict where
  error : Option Text := none
  warning : Option Text := none
  success : Option Text := none
  deriving DecidableEq, Repr

namespace Verdict

/-- How grave the message of a verdict is. -/
inductive Kind where
  | error
  | warning
  | success
  deriving DecidableEq, Repr

def Kind.name : Kind → Text
  | .error => "error"
  | .warning => "warning"
  | .success => "success"

/-- An entry is valid unless there is an error. -/
def valid (v : Verdict) : Bool := v.error.isNone

/-- A failure, with its error. -/
def fail (error : Text) : Verdict := { error := some error }

/-- Valid, with nothing to say. -/
def fine : Verdict := {}

/-- Valid, with a warning. -/
def caution (warning : Text) : Verdict := { warning := some warning }

/-- Valid, with a word of success. -/
def praise (success : Text) : Verdict := { success := some success }

/-- Put a verdict together from its validity and its texts; none where
the validity contradicts the error text. -/
def ofParts? (valid : Bool) (error warning success : Option Text) : Option Verdict :=
  if valid = error.isNone then some ⟨error, warning, success⟩ else none

/-- Why parts make no verdict. -/
def partsMessage : Text :=
  "ValidationResult.error must be set exactly when valid is False"

/-- The text to show, and its kind: the first that is not empty. -/
def shown? (v : Verdict) : Option (Kind × Text) :=
  let texts := [(Kind.error, v.error), (.warning, v.warning), (.success, v.success)]
  texts.findSome? fun (kind, text) =>
    match text with
    | some (c :: cs) => some (kind, c :: cs)
    | _ => none

def kind? (v : Verdict) : Option Kind := v.shown?.map (·.1)

def message? (v : Verdict) : Option Text := v.shown?.map (·.2)

end Verdict
end MetricAudit
