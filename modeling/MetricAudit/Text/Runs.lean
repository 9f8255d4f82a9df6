/-
MetricAudit.Text.Runs — sets of characters, given by runs of code points.

Unicode gives a property to many characters in a row, so a set of
characters is a list of runs: the first and the last code point of each.
-/
import MetricAudit.Text.Basic

namespace MetricAudit.Text

/-- Whether one of the runs holds a character. -/
def inRuns (runs : List (Nat × Nat)) (c : Char) : Bool :=
  runs.any fun (first, last) => first ≤ c.toNat && c.toNat ≤ last

/-- A character is in the runs exactly if one of them spans it. -/
theorem inRuns_iff {runs : List (Nat × Nat)} {c : Char} :
    inRuns runs c = true ↔ ∃ run ∈ runs, run.1 ≤ c.toNat ∧ c.toNat ≤ run.2 := by
  simp [inRuns]

end MetricAudit.Text
