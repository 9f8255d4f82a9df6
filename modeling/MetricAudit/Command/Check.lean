/-
MetricAudit.Command.Check — checking the metrics in files.

The settings are read first, then the files in the order of the request,
and nothing is written unless all of them can be read. The first fault
decides how the run ends: refused settings, a missing file and a
malformed file each have a status of their own.
-/
import MetricAudit.Command.Outcome
import MetricAudit.Rendering.Color
import MetricAudit.Rendering.Human
import MetricAudit.Rendering.Payload

namespace MetricAudit.Command.Check

/-- The name of the file with the settings of a project. -/
def projectFile : Text := "pyproject.toml"

/-- The path of the settings, and how messages show it. -/
def configuration (s : Surroundings) (r : CheckRequest) : Path × Text :=
  match r.config with
  | some p => (p, p.text)
  | none => (.parse projectFile, (Path.parse (s.directory ++ '/' :: projectFile)).text)

/-- The settings of a request. -/
def settings (s : Surroundings) (r : CheckRequest) :
    Except (Project.Fault × List Log.Remark) Project.Found := do
  let (p, path) := configuration s r
  let found ← Project.load s.limits.toml s.tree p path
  if r.optionalFormula then
    return { found with settings := { found.settings with formulaRequired := false } }
  else return found

/-- How a run ends whose settings cannot be had. -/
def settingsOutcome (path : Text) (remarks : List Log.Remark) (fault : Project.Fault) :
    Outcome :=
  match fault with
  | .notATable => .refused remarks .configuration (fault.message path)
  | .refused _ => .refused remarks .configuration (fault.message path)
  | _ => .failed remarks (.settings path fault)

/-- How a run ends that cannot read the file at a path. -/
def loadOutcome (remarks : List Log.Remark) (p : Path) (fault : Document.LoadFault) :
    Outcome :=
  match fault with
  | .notFound => .refused remarks .missingFile (fault.message p)
  | .malformed _ => .refused remarks .malformedFile (fault.message p)
  | .misshapen _ => .refused remarks .malformedFile (fault.message p)
  | .system complaint =>
    let report : Log.Remark :=
      ⟨.error, "failed to read " ++ p.text ++ '\n' :: complaint.kind ++ ": " ++ fault.message p⟩
    .refused (remarks ++ [report]) .generic (fault.message p)
  | _ => .failed remarks (.load p fault)

/-- The metrics of files, with remarks on each. The first fault comes
with the path of its file and the remarks before it. -/
def loadAll (limits : NestingLimits) (tree : FileTree) :
    List Path → Except (List Log.Remark × Path × Document.LoadFault)
      (List Log.Remark × List Metric)
  | [] => .ok ([], [])
  | p :: ps =>
    match Document.loadMetrics limits tree p with
    | .error fault => .error ([], p, fault)
    | .ok ms =>
      let remark := Document.loadedRemark p ms
      match loadAll limits tree ps with
      | .ok (remarks, rest) => .ok (remark :: remarks, ms ++ rest)
      | .error (remarks, fault) => .error (remark :: remarks, fault)

/-- The width of reports for people. -/
def width : Nat := 120

/-- Whether reports for people are colored: an option of the request
decides, or else the terminal that they go to. -/
def isColored (s : Surroundings) (r : CheckRequest) : Bool :=
  Rendering.Color.wanted r.color r.noColor (s.terminal && r.output == .standard) s.showsColors

/-- Reports in the form of a request. -/
def reportText (s : Surroundings) (r : CheckRequest) (reports : List Report) :
    Except Failure Text :=
  match r.format with
  | .human =>
    match Rendering.Human.text s.renderer (isColored s r) width reports with
    | .ok text => .ok text
    | .error refusal => .error (.render refusal)
  | .json =>
    match Rendering.Payload.text reports with
    | .ok text => .ok text
    | .error faults => .error (.payload faults)

/-- The reports that are not valid. -/
def invalid (reports : List Report) : List Report := reports.filter fun r => !r.valid

/-- The remark on invalid metrics, where there are any. -/
def invalidRemarks (reports : List Report) : List Log.Remark :=
  match invalid reports with
  | [] => []
  | rs => [⟨.debug, "invalid metrics: " ++ Text.join ", " (rs.map (·.metric.name))⟩]

/-- How a run ends that has these reports. -/
def reportOutcome (s : Surroundings) (r : CheckRequest) (remarks : List Log.Remark)
    (reports : List Report) : Outcome :=
  match reportText s r reports with
  | .error failure => .failed remarks failure
  | .ok text =>
    let status := if (invalid reports).isEmpty then ExitStatus.success else .invalid
    let outcome := Outcome.delivered s.tree r.output text status remarks
    match outcome.failure with
    | some _ => outcome
    | none => { outcome with remarks := outcome.remarks ++ invalidRemarks reports }

/-- Check the metrics of a request. -/
def run (s : Surroundings) (r : CheckRequest) : Outcome :=
  match settings s r with
  | .error (fault, remarks) => settingsOutcome (configuration s r).2 remarks fault
  | .ok found =>
    match loadAll s.limits s.tree r.paths with
    | .error (remarks, p, fault) => loadOutcome (found.remarks ++ remarks) p fault
    | .ok (remarks, ms) =>
      let remarks := found.remarks ++ remarks ++ ms.flatMap (Metric.checkRemarks found.settings)
      reportOutcome s r remarks (ms.map (Metric.check found.settings))

end MetricAudit.Command.Check
