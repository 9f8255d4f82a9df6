/-
MetricAudit.Proofs.Metric.Derived — what a report works out of a metric.

The variables, the denominators and the fixed variables of a report come
from separate readings of one formula. Each list lies within the one
before it, whatever the formula looks like (`derived_ordered`), and all
are empty where the formula or a threshold is refused
(`check_of_refused`). In a valid report the variables are the declared
symbols, so that whatever is derived was declared and accepted
(`declared_of_mem_symbols`).
-/
import MetricAudit.Proofs.Metric.Declaration
import MetricAudit.Proofs.Metric.Fixed
import MetricAudit.Proofs.Metric.Results

namespace MetricAudit

open Text (strip)

namespace Metric

/-- What a metric fixes, its formula divides by. -/
theorem symbol_mem_denominators_of_mem_fixed {m : Metric} {v : FixedVariable}
    (h : v ∈ m.fixed) : v.symbol ∈ Formula.denominators m.formula :=
  FixedVariable.symbol_mem_denominators h

/-- A report works something out only where the formula and both
thresholds are accepted. -/
theorem check_of_refused {s : Settings} {m : Metric}
    (h : (m.formulaVerdict s).valid = false ∨ (m.desiredVerdict s).valid = false ∨
      (m.worstVerdict s).valid = false) :
    check s m = { metric := m, results := m.results s } := by
  have hrefused : ¬m.passesFormats s = true := by
    rw [passesFormats_iff, Accepted]
    rcases h with h | h | h <;> simp [h]
  rw [check, if_neg hrefused]

/-- The formats of a valid metric pass, and its declarations are those of
its formula. -/
theorem passesFormats_of_valid {s : Settings} {m : Metric}
    (h : (check s m).valid = true) : m.passesFormats s = true := by
  obtain ⟨⟨-, -, -, haccepted⟩, -, -⟩ := (valid_check_iff s m).mp h
  exact passesFormats_iff.mpr haccepted

theorem symbols_eq_of_valid {s : Settings} {m : Metric} (h : (check s m).valid = true) :
    (check s m).symbols = Declaration.symbols m.declared := by
  obtain ⟨-, -, hagreed⟩ := (valid_check_iff s m).mp h
  rw [check, if_pos (passesFormats_of_valid h)]
  exact Declaration.symbols_eq_of_valid_check hagreed

/-- A variable of a valid metric is declared by a symbol that is accepted,
and wherever it is declared its description is accepted too. -/
theorem declared_of_mem_symbols {s : Settings} {m : Metric} {x : Text}
    (h : (check s m).valid = true) (hx : x ∈ (check s m).symbols) :
    (∃ d ∈ m.declared, strip d.symbol = x) ∧
      Formula.isSymbol x = true ∧ x.length ≤ Field.symbolMost ∧
      ∀ d ∈ m.declared, strip d.symbol = x →
        (Field.checkSymbol d.symbol).valid = true ∧
        (Field.checkVariableDescription d.description).valid = true := by
  obtain ⟨-, hverdict, -⟩ := (valid_check_iff s m).mp h
  have haccepted : ∀ d ∈ m.declared, (Field.checkSymbol d.symbol).valid = true ∧
      (Field.checkVariableDescription d.description).valid = true :=
    fun d hd => (Declaration.valid_verdict_iff d).mp (hverdict d hd)
  rw [symbols_eq_of_valid h, Declaration.mem_symbols_iff] at hx
  obtain ⟨d, hd, rfl⟩ := hx.1
  obtain ⟨hsymbol, hlength⟩ := (Field.valid_checkSymbol_iff d.symbol).mp (haccepted d hd).1
  exact ⟨⟨d, hd, rfl⟩, hsymbol, hlength, fun d' hd' _ => haccepted d' hd'⟩

/-- The fixed variables lie within the denominators, these within the
variables, and the variables ascend. -/
theorem derived_ordered (s : Settings) (m : Metric) :
    (∀ v ∈ (check s m).fixed, v.symbol ∈ (check s m).denominators) ∧
      (check s m).denominators.Sublist (check s m).symbols ∧
      (check s m).symbols.Pairwise (· < ·) := by
  rw [check]
  split
  · exact ⟨fun v hv => symbol_mem_denominators_of_mem_fixed hv, List.filter_sublist,
      Text.pairwise_sortedDistinct _⟩
  · exact ⟨fun v hv => absurd hv List.not_mem_nil, List.nil_sublist _, List.Pairwise.nil⟩

/-- **What a report derives is consistent.** Every fixed variable is a
denominator, the denominators are some of the variables in their order,
and the variables ascend strictly. All of it is empty where the formula
or a threshold is refused. In a valid report the variables are the
declared symbols; each variable that is fixed or divided by is declared,
has a symbol of at most 30 characters, and is described acceptably
wherever it is declared. -/
theorem check_derives_consistently (s : Settings) (m : Metric) :
    (∀ v ∈ (check s m).fixed, v.symbol ∈ (check s m).denominators) ∧
    (check s m).denominators.Sublist (check s m).symbols ∧
    (check s m).symbols.Pairwise (· < ·) ∧
    (((m.formulaVerdict s).valid = false ∨ (m.desiredVerdict s).valid = false ∨
        (m.worstVerdict s).valid = false) →
      (check s m).symbols = [] ∧ (check s m).denominators = [] ∧
        (check s m).fixed = [] ∧ (check s m).notes = [] ∧ (check s m).case = none) ∧
    ((check s m).valid = true →
      (check s m).symbols = Declaration.symbols m.declared ∧
      ∀ x, x ∈ (check s m).denominators ∨ x ∈ (check s m).fixed.map (·.symbol) →
        (∃ d ∈ m.declared, strip d.symbol = x) ∧
        Formula.isSymbol x = true ∧ x.length ≤ 30 ∧
        ∀ d ∈ m.declared, strip d.symbol = x →
          (Field.checkSymbol d.symbol).valid = true ∧
          (Field.checkVariableDescription d.description).valid = true) := by
  obtain ⟨hfixed, hsub, hsorted⟩ := derived_ordered s m
  refine ⟨hfixed, hsub, hsorted, ?_, ?_⟩
  · intro hrefused
    rw [check_of_refused hrefused]
    exact ⟨rfl, rfl, rfl, rfl, rfl⟩
  · intro hvalid
    refine ⟨symbols_eq_of_valid hvalid, ?_⟩
    intro x hx
    have hsymbol : x ∈ (check s m).symbols := by
      rcases hx with hx | hx
      · exact hsub.subset hx
      · obtain ⟨v, hv, rfl⟩ := List.mem_map.mp hx
        exact hsub.subset (hfixed v hv)
    exact declared_of_mem_symbols hvalid hsymbol

/-- Calls by the minute, at least ten in three of them. -/
def callRate : Metric where
  name := "Call rate"
  formula := " A / B "
  desired := some ">= 10/3 min"
  declared := [⟨"A", "answered calls"⟩, ⟨" B ", "minutes"⟩]

/-- The call rate is valid and fixes its minutes, which therefore are
declared by a symbol. -/
theorem check_derives_consistently_callRate :
    (check {} callRate).valid = true ∧ ("B" : Text) ∈ (check {} callRate).fixed.map (·.symbol) ∧
      ("B" : Text) ∈ (check {} callRate).denominators ∧
      (∃ d ∈ callRate.declared, strip d.symbol = "B") ∧ Formula.isSymbol "B" = true := by
  have hvalid : (check {} callRate).valid = true := by decide +kernel
  have hfixed : ("B" : Text) ∈ (check {} callRate).fixed.map (·.symbol) := by decide +kernel
  have hdivides : ("B" : Text) ∈ (check {} callRate).denominators := by decide +kernel
  obtain ⟨-, -, -, -, hderived⟩ := check_derives_consistently {} callRate
  obtain ⟨hdeclared, hsymbol, -⟩ := (hderived hvalid).2 "B" (Or.inr hfixed)
  exact ⟨hvalid, hfixed, hdivides, hdeclared, hsymbol⟩

end Metric
end MetricAudit
