/-
MetricAudit.Proofs.Metric.Settings — what the settings change in a report.

Settings enter the check of a metric in two ways. The labels are quoted
in the texts of the two threshold verdicts, and whether a formula is
required decides the verdict on a blank one. Beyond the texts the labels
reach nothing: the validity and the kind of a verdict, its mark, are those
of its finding, which is found without them (`Threshold.mark_check`). Two
runs of the check under settings with other labels therefore go through
the same gates (`check_settings_confined`).
-/
import MetricAudit.Proofs.Metric.Results
import MetricAudit.Proofs.Threshold.Check

namespace MetricAudit

open Text (strip)

/-! ## Verdicts on thresholds -/

/-- What counts of a verdict beside its texts: the validity, and the kind
of the message. -/
def Verdict.mark (v : Verdict) : Bool × Option Verdict.Kind := (v.valid, v.kind?)

namespace Threshold

/-- How grave a finding is. -/
def Finding.gravity : Finding → Verdict.Kind
  | .blank => .warning
  | .misspelt _ => .error
  | .incompleteRatioWithUnit .. => .error
  | .incompleteRatio _ => .error
  | .notANumber _ => .error
  | .accepted _ => .success

/-- The kind of a verdict is that of its finding, whatever the label. -/
theorem Finding.kind?_verdict (label : Text) (f : Finding) :
    (f.verdict label).kind? = some f.gravity := by
  cases f with
  | accepted t =>
    rw [verdict, praise_eq]
    cases t.operator.isSome <;> cases t.isRatio <;> cases t.unit.isSome <;> rfl
  | _ => rfl

/-- Labels make no mark. -/
theorem mark_check (label label' entry : Text) :
    (check label entry).mark = (check label' entry).mark := by
  have hvalid : ((examine entry).verdict label).valid = ((examine entry).verdict label').valid := by
    rw [Bool.eq_iff_iff, Finding.valid_verdict_iff, Finding.valid_verdict_iff]
  rw [Verdict.mark, Verdict.mark, check, check, Finding.kind?_verdict, Finding.kind?_verdict,
    hvalid]

end Threshold

/-! ## Verdicts on formulas -/

namespace Formula

theorem examine_eq_blank_iff {entry : Text} : examine entry = .blank ↔ strip entry = [] := by
  unfold examine
  cases strip entry with
  | nil => simp
  | cons c cs =>
    simp only [List.isEmpty_cons, Bool.false_eq_true, if_false, reduceCtorEq, iff_false]
    repeat' split
    all_goals exact Finding.noConfusion

/-- Whether a formula is required matters for a blank one only. -/
theorem check_of_strip_ne_nil {entry : Text} (h : strip entry ≠ []) (required required' : Bool) :
    check required entry = check required' entry := by
  unfold check
  cases hfound : examine entry with
  | blank => exact absurd (examine_eq_blank_iff.mp hfound) h
  | _ => rfl

/-- A required formula is not accepted blank. -/
theorem strip_ne_nil_of_valid {entry : Text} (h : (check true entry).valid = true) :
    strip entry ≠ [] := by
  intro hblank
  rw [check, examine_eq_blank_iff.mpr hblank] at h
  cases h

end Formula

/-! ## Results -/

/-- The fields of some results with the marks of their verdicts. -/
def Results.marks (r : Results) : List (Text × Bool × Option Verdict.Kind) :=
  r.map fun e => (e.1, e.2.mark)

namespace Metric

section
variable {s t : Settings} (h : s.formulaRequired = t.formulaRequired)

include h

theorem formulaVerdict_settings (m : Metric) : m.formulaVerdict s = m.formulaVerdict t := by
  rw [formulaVerdict, h, ← formulaVerdict]

theorem passesFormats_settings (m : Metric) : m.passesFormats s = m.passesFormats t := by
  have hdesired : (m.desiredVerdict s).valid = (m.desiredVerdict t).valid :=
    congrArg Prod.fst (Threshold.mark_check _ _ _)
  have hworst : (m.worstVerdict s).valid = (m.worstVerdict t).valid :=
    congrArg Prod.fst (Threshold.mark_check _ _ _)
  rw [passesFormats, formulaVerdict_settings h, hdesired, hworst, ← passesFormats]

theorem marks_results (m : Metric) : (m.results s).marks = (m.results t).marks := by
  have hdesired : (m.desiredVerdict s).mark = (m.desiredVerdict t).mark :=
    Threshold.mark_check _ _ _
  have hworst : (m.worstVerdict s).mark = (m.worstVerdict t).mark :=
    Threshold.mark_check _ _ _
  rw [results_eq, results_eq, Results.marks, Results.marks]
  simp only [List.map_append, fieldResults, List.map_cons, formulaVerdict_settings h m, hdesired,
    hworst]

end

/-- A formula that is not blank makes the same report whether one is
required or not. -/
theorem check_of_strip_formula_ne_nil {m : Metric} (h : strip m.formula ≠ []) {s t : Settings}
    (hdesired : s.desiredLabel = t.desiredLabel) (hworst : s.worstLabel = t.worstLabel) :
    check s m = check t m := by
  have hformula : m.formulaVerdict s = m.formulaVerdict t := Formula.check_of_strip_ne_nil h _ _
  have hresults : m.results s = m.results t := by
    simp only [results, fieldResults, hformula, desiredVerdict, worstVerdict, hdesired, hworst]
  have hpass : m.passesFormats s = m.passesFormats t := by
    simp only [passesFormats, hformula, desiredVerdict, worstVerdict, hdesired, hworst]
  rw [check, check, hresults, hpass]

/-- **What settings change.** Under settings that agree on whether a
formula is required the reports on a metric have the same fields in the
same order, each with a verdict of the same validity and of the same kind
of message, and everything that is worked out is the same. No longer
requiring a formula keeps a valid report valid, and changes nothing where
the formula is not blank. -/
theorem check_settings_confined (s : Settings) (m : Metric) :
    (∀ t : Settings, t.formulaRequired = s.formulaRequired →
      (check t m).results.marks = (check s m).results.marks ∧
      (check t m).symbols = (check s m).symbols ∧
      (check t m).denominators = (check s m).denominators ∧
      (check t m).fixed = (check s m).fixed ∧
      (check t m).notes = (check s m).notes ∧
      (check t m).case = (check s m).case) ∧
    ((check { s with formulaRequired := true } m).valid = true →
      (check { s with formulaRequired := false } m).valid = true) ∧
    (strip m.formula ≠ [] →
      check { s with formulaRequired := false } m =
        check { s with formulaRequired := true } m) := by
  have hsame : strip m.formula ≠ [] → check { s with formulaRequired := false } m =
      check { s with formulaRequired := true } m :=
    fun hne => check_of_strip_formula_ne_nil hne rfl rfl
  refine ⟨fun t ht => ?_, fun hvalid => ?_, hsame⟩
  · have hpass := passesFormats_settings ht m
    refine ⟨?_, ?_⟩
    · rw [results_check, results_check, marks_results ht]
    · unfold check
      rw [hpass]
      split <;> exact ⟨rfl, rfl, rfl, rfl, rfl⟩
  · have hformula := ((valid_check_iff _ m).mp hvalid).1.2.2.2.1
    rw [hsame (Formula.strip_ne_nil_of_valid hformula)]
    exact hvalid

/-- Calls by the minute, with nothing desired. -/
def untargetedRate : Metric where
  name := "Call rate"
  formula := " A / B"
  declared := [⟨"A", "answered calls"⟩, ⟨"B", "minutes"⟩]

/-- Other labels change the advice to desire something but not its mark,
and the formula, being there, need not be required. -/
theorem check_settings_confined_untargeted :
    let relabelled : Settings := { desiredLabel := "target", worstLabel := "" }
    (check relabelled untargetedRate).results ≠ (check {} untargetedRate).results ∧
    (check relabelled untargetedRate).results.marks = (check {} untargetedRate).results.marks ∧
    (check {} untargetedRate).valid = true ∧
    (check { formulaRequired := false } untargetedRate).valid = true ∧
    strip untargetedRate.formula ≠ [] ∧
    check { formulaRequired := false } untargetedRate = check {} untargetedRate := by
  intro relabelled
  have hvalid : (check {} untargetedRate).valid = true := by decide +kernel
  have hentered : strip untargetedRate.formula ≠ [] := by decide
  have hchanged : (check relabelled untargetedRate).results ≠
      (check {} untargetedRate).results := by decide +kernel
  obtain ⟨hlabels, hoptional, hsame⟩ := check_settings_confined {} untargetedRate
  exact ⟨hchanged, (hlabels relabelled rfl).1, hvalid, hoptional hvalid, hentered,
    hsame hentered⟩

end Metric
end MetricAudit
