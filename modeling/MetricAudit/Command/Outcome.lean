/-
MetricAudit.Command.Outcome — what a run of the program amounts to.

An outcome holds what is written to the standard output, the remarks,
the file that is written, and the status at the end. A failure that the
program does not report itself stops it with the generic status; the
outcome then names the failure.
-/
import MetricAudit.Command.ExitStatus
import MetricAudit.Command.Request
import MetricAudit.Project
import MetricAudit.Rendering.Renderer
import MetricAudit.Text.ControlSequence

namespace MetricAudit.Command

/-- What a run can see and use. -/
structure Surroundings where
  tree : FileTree
  /-- The working directory, as messages show it. -/
  directory : Text
  /-- What data there is room for. -/
  limits : NestingLimits
  /-- What reports for people are made with. -/
  renderer : Rendering.Renderer
  /-- The standard output is a terminal. -/
  terminal : Bool := false
  /-- That terminal shows colors. -/
  showsColors : Bool := false

/-- A failure that stops the program. -/
inductive Failure where
  | settings (path : Text) (fault : Project.Fault)
  | load (p : Path) (fault : Document.LoadFault)
  | render (refusal : Rendering.Refusal)
  /-- The payload of reports has not the published shape. -/
  | payload (faults : List Document.Fault)
  | write (fault : FileTree.WriteFault)

def Failure.message : Failure → Text
  | .settings path fault => fault.message path
  | .load p fault => fault.message p
  | .render refusal => refusal.message
  | .payload faults => Text.join "\n" (faults.map fun fault => fault.complaint.message)
  | .write fault => fault.message

/-- The outcome of a run. -/
structure Outcome where
  status : ExitStatus
  out : Text := []
  remarks : List Log.Remark := []
  written : Option (Path × Text) := none
  failure : Option Failure := none

namespace Outcome

/-- A run that a failure stops. -/
def failed (remarks : List Log.Remark) (failure : Failure) : Outcome :=
  { status := .generic, remarks, failure := some failure }

/-- A run that ends with a report of what is wrong. -/
def refused (remarks : List Log.Remark) (status : ExitStatus) (message : Text) : Outcome :=
  { status, remarks := remarks ++ [⟨.error, Text.withoutSequences message⟩] }

/-- A run that writes a text, with a newline after it, and ends with a
status. -/
def delivered (tree : FileTree) (destination : Destination) (text : Text)
    (status : ExitStatus) (remarks : List Log.Remark) : Outcome :=
  let text := text ++ ['\n']
  match destination with
  | .standard => { status, out := text, remarks }
  | .file p =>
    match tree.target p with
    | .ok place => { status, remarks, written := some (place, text) }
    | .error fault => failed remarks (.write fault)

/-- The remarks as lines, each ended. -/
def errorText (o : Outcome) : Text := o.remarks.flatMap fun r => r.line ++ ['\n']

end Outcome
end MetricAudit.Command
