/-
MetricAudit.Proofs.Metric.Blanks — blanks around the entries of a metric.

Some steps of the check strip the entry they look at, others read it as
it stands. Each of them gives the same for an entry and for its stripped
form: the checks of single fields, the fields and verdicts of
declarations, and what is worked out of the formula and the thresholds.
So a report does not tell a metric from the one with all blanks around
its entries taken off (`check_ignores_blanks`).
-/
import MetricAudit.Metric.Report
import MetricAudit.Proofs.Metric.Fixed

namespace MetricAudit

open Text (strip)

/-! ## Checks of single entries -/

/-- An entry that is absent stays so, and counts as the empty text. -/
theorem Text.entered_map_strip (t : Option Text) :
    entered (t.map strip) = strip (entered t) := by
  cases t <;> rfl

namespace Field

theorem checkName_strip (entry : Text) : checkName (strip entry) = checkName entry := by
  simp only [checkName, Text.strip_strip]

theorem checkCode_strip (entry : Text) : checkCode (strip entry) = checkCode entry := by
  simp only [checkCode, Text.strip_strip]

theorem checkDescription_strip (entry : Text) :
    checkDescription (strip entry) = checkDescription entry := by
  simp only [checkDescription, checkDescriptionWithin, Text.strip_strip]

theorem checkSymbol_strip (entry : Text) : checkSymbol (strip entry) = checkSymbol entry := by
  simp only [checkSymbol, Text.strip_strip]

theorem checkVariableDescription_strip (entry : Text) :
    checkVariableDescription (strip entry) = checkVariableDescription entry := by
  simp only [checkVariableDescription, Text.strip_strip]

end Field

theorem Formula.check_strip (required : Bool) (entry : Text) :
    check required (strip entry) = check required entry := by
  simp only [check, examine, Text.strip_strip]

theorem Threshold.check_strip (label entry : Text) :
    check label (strip entry) = check label entry := by
  simp only [check, examine, scan_strip]

/-! ## Declarations -/

namespace Declaration

/-- The declaration without the blanks around its entries. -/
def stripped (d : Declaration) : Declaration where
  symbol := strip d.symbol
  description := strip d.description

theorem field_stripped (d : Declaration) : d.stripped.field = d.field := by
  simp only [field, stripped, Text.strip_strip]

theorem verdict_stripped (d : Declaration) : d.stripped.verdict = d.verdict := by
  simp only [verdict, stripped, Field.checkSymbol_strip, Field.checkVariableDescription_strip]

theorem symbols_map_stripped (declared : List Declaration) :
    symbols (declared.map stripped) = symbols declared := by
  simp only [symbols, List.map_map, Function.comp_def, stripped, Text.strip_strip]

theorem check_stripped (formula : Text) (declared : List Declaration) :
    check (strip formula) (declared.map stripped) = check formula declared := by
  simp only [check, examine, Text.strip_strip, symbols_map_stripped, List.isEmpty_map]

end Declaration

/-! ## The thresholds and the formula -/

theorem FixedVariable.infer_strip (formula : Text) (desired worst : Option Text) :
    infer (strip formula) (desired.map strip) (worst.map strip) = infer formula desired worst := by
  simp only [infer, infer?, Text.entered_map_strip, Text.strip_strip,
    Formula.directDivision?_strip]

theorem Threshold.classify_strip (desired worst : Option Text) :
    classify (desired.map strip) (worst.map strip) = classify desired worst := by
  simp only [classify, Text.entered_map_strip, parse?_strip]

/-! ## Metrics -/

namespace Metric

/-- The metric without the blanks around its entries. -/
def stripped (m : Metric) : Metric where
  name := strip m.name
  formula := strip m.formula
  desired := m.desired.map strip
  worst := m.worst.map strip
  declared := m.declared.map Declaration.stripped
  code := strip m.code
  description := strip m.description

theorem formulaVerdict_stripped (s : Settings) (m : Metric) :
    m.stripped.formulaVerdict s = m.formulaVerdict s :=
  Formula.check_strip _ _

theorem desiredVerdict_stripped (s : Settings) (m : Metric) :
    m.stripped.desiredVerdict s = m.desiredVerdict s := by
  simp only [desiredVerdict, stripped, Text.entered_map_strip, Threshold.check_strip]

theorem worstVerdict_stripped (s : Settings) (m : Metric) :
    m.stripped.worstVerdict s = m.worstVerdict s := by
  simp only [worstVerdict, stripped, Text.entered_map_strip, Threshold.check_strip]

theorem fieldResults_stripped (s : Settings) (m : Metric) :
    m.stripped.fieldResults s = m.fieldResults s := by
  rw [fieldResults, formulaVerdict_stripped, desiredVerdict_stripped, worstVerdict_stripped]
  simp only [stripped, Field.checkName_strip, Field.checkCode_strip,
    Field.checkDescription_strip]
  rfl

theorem results_stripped (s : Settings) (m : Metric) :
    m.stripped.results s = m.results s := by
  rw [results, fieldResults_stripped]
  simp only [stripped, List.foldl_map, Declaration.field_stripped,
    Declaration.verdict_stripped, Declaration.check_stripped]
  rfl

theorem passesFormats_stripped (s : Settings) (m : Metric) :
    m.stripped.passesFormats s = m.passesFormats s := by
  rw [passesFormats, formulaVerdict_stripped, desiredVerdict_stripped, worstVerdict_stripped]
  rfl

theorem fixed_stripped (m : Metric) : m.stripped.fixed = m.fixed :=
  FixedVariable.infer_strip _ _ _

/-- The case of the stripped metric: the same, but for a desired entry of
blanks, of which nothing is left. -/
theorem case?_stripped (m : Metric) :
    m.stripped.case? = if strip (Text.entered m.desired) = [] then none else m.case? := by
  simp only [case?, stripped, Text.entered_map_strip, Threshold.classify_strip,
    List.isEmpty_iff]
  by_cases hblank : strip (Text.entered m.desired) = []
  · rw [if_pos hblank, if_pos hblank]
  · have hentered : Text.entered m.desired ≠ [] := Text.ne_nil_of_strip_ne_nil hblank
    rw [if_neg hblank, if_neg hblank, if_neg hentered]

/-- **Blanks around the entries never matter.** A metric and its stripped
form give the same results, field by field and in the same order, the
same variables and denominators, and the same fixed variables and notes.
They give the same case too, except that a desired entry of blanks has
none once it is stripped. -/
theorem check_ignores_blanks (s : Settings) (m : Metric) :
    (check s m.stripped).results = (check s m).results ∧
    (check s m.stripped).symbols = (check s m).symbols ∧
    (check s m.stripped).denominators = (check s m).denominators ∧
    (check s m.stripped).fixed = (check s m).fixed ∧
    (check s m.stripped).notes = (check s m).notes ∧
    (check s m.stripped).case =
      if strip (Text.entered m.desired) = [] then none else (check s m).case := by
  have hsymbols : Formula.symbols m.stripped.formula = Formula.symbols m.formula :=
    Formula.symbols_strip m.formula
  have hdenominators : Formula.denominators m.stripped.formula = Formula.denominators m.formula :=
    Formula.denominators_strip m.formula
  by_cases hpass : m.passesFormats s = true
  · have hpass' : m.stripped.passesFormats s = true := (passesFormats_stripped s m).trans hpass
    rw [check, if_pos hpass', check, if_pos hpass]
    refine ⟨results_stripped s m, hsymbols, hdenominators, fixed_stripped m, ?_, case?_stripped m⟩
    rw [fixed_stripped]
  · have hpass' : ¬m.stripped.passesFormats s = true := by
      rwa [passesFormats_stripped]
    rw [check, if_neg hpass', check, if_neg hpass]
    exact ⟨results_stripped s m, rfl, rfl, rfl, rfl, (ite_self none).symm⟩

end Metric
end MetricAudit
