/-
MetricAudit.Command.Run — running the program.

`run` is the whole program as a function: of the arguments, the files and
the working directory it makes an outcome. The level of the remarks that
are written depends on two options, of which the quiet one wins.
-/
import MetricAudit.Command.Check
import MetricAudit.Command.Inspect
import MetricAudit.Command.Manual

namespace MetricAudit.Command

namespace Task

/-- Do what a command asks for. -/
def run (s : Surroundings) : Task → Outcome
  | .check request => Check.run s request
  | .thresholds label entries => Inspect.thresholds label entries
  | .formula f desired worst => Inspect.formula f desired worst
  | .manual output => .delivered s.tree output Manual.text .success []
  | .completion shell output => .delivered s.tree output (Completion.text shell) .success []

/-- The paths that a task looks at. -/
def paths : Task → List Path
  | .check request =>
    request.config.getD (.parse Check.projectFile) :: request.output.paths ++ request.paths
  | .manual output => output.paths
  | .completion _ output => output.paths
  | _ => []

end Task

/-- The least level of the remarks that are written. -/
def leastLevel (quiet verbose : Bool) : Log.Level :=
  if quiet then .error else if verbose then .debug else .warning

/-- The remark that stands before all others. -/
def openingRemark : Log.Remark := ⟨.debug, "verbose logging active"⟩

namespace Request

/-- Do what is asked for. -/
def run (s : Surroundings) : Request → Outcome
  | .version =>
    { status := .success, out := Program.name ++ ' ' :: Program.version ++ ['\n'] }
  | .help => { status := .success, out := Manual.text }
  | .perform quiet verbose task =>
    let outcome := task.run s
    { outcome with
      remarks := Log.atLeast (leastLevel quiet verbose) (openingRemark :: outcome.remarks) }

end Request

/-- The paths of the files that a run with these arguments looks at. -/
def pathsRead (args : List Text) : List Path :=
  match Request.ofArguments args with
  | .ok (.perform _ _ task) => task.paths
  | _ => []

/-- Run the program. Misused arguments end it like an invalid entry. -/
def run (s : Surroundings) (args : List Text) : Outcome :=
  match Request.ofArguments args with
  | .ok request => request.run s
  | .error misuse => .refused [] .invalid misuse.message

end MetricAudit.Command
