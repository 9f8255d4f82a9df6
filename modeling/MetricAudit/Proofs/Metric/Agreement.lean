/-
MetricAudit.Proofs.Metric.Agreement — whether declarations agree with a
formula, and where they do not.

Two sets of symbols are compared, those of the variables of the formula
and those that are declared (`Declares`). What is reported of them is
their difference, as a list in code-point order that names each symbol
once (`Lists`): first the variables that are not declared, and where
there are none the declared symbols that are no variables.

The comparison works on two lists that were sorted separately. Each lists
its set (`lists_symbols`), and a set is listed in one way only
(`Lists.unique`), so nothing but the declared set counts
(`check_congr`): neither the order of the declarations nor how often a
symbol is declared, nor blanks around it (`Rearranged`).
`check_reports_difference` is the main theorem.
-/
import MetricAudit.Proofs.Metric.Declaration

namespace MetricAudit.Declaration

open Text (strip)

/-! ## Sets of symbols and their lists -/

/-- A symbol is declared, with blanks around it or without. The empty one
never is. -/
def Declares (declared : List Declaration) (x : Text) : Prop :=
  x ≠ [] ∧ ∃ d ∈ declared, strip d.symbol = x

instance (declared : List Declaration) (x : Text) : Decidable (Declares declared x) :=
  inferInstanceAs (Decidable (_ ∧ _))

/-- The texts with a property, in code-point order and once each. -/
def Lists (xs : List Text) (p : Text → Prop) : Prop :=
  xs.Pairwise (· < ·) ∧ ∀ x, x ∈ xs ↔ p x

theorem Lists.unique {xs ys : List Text} {p : Text → Prop} (hx : Lists xs p)
    (hy : Lists ys p) : xs = ys :=
  Text.eq_of_pairwise_lt hx.1 hy.1 fun x => (hx.2 x).trans (hy.2 x).symm

theorem lists_symbols (declared : List Declaration) :
    Lists (symbols declared) (Declares declared) :=
  ⟨Text.pairwise_sortedDistinct _, fun _ => mem_symbols_iff.trans and_comm⟩

theorem lists_formulaSymbols (formula : Text) :
    Lists (Formula.symbols formula) (· ∈ Formula.symbols formula) :=
  ⟨Text.pairwise_sortedDistinct _, fun _ => Iff.rfl⟩

/-- What one list has and the other lacks is listed in the same order. -/
theorem Lists.without {xs ys : List Text} {p q : Text → Prop} (hx : Lists xs p)
    (hy : Lists ys q) : Lists (without xs ys) fun x => p x ∧ ¬q x := by
  refine ⟨hx.1.sublist List.filter_sublist, fun x => ?_⟩
  rw [Declaration.without, List.mem_filter, hx.2, Bool.not_eq_true', ← Bool.not_eq_true,
    List.contains_iff_mem, hy.2]

theorem Lists.ne_nil_iff {xs : List Text} {p : Text → Prop} (h : Lists xs p) :
    xs ≠ [] ↔ ∃ x, p x := by
  rw [← List.isEmpty_eq_false_iff, List.isEmpty_eq_false_iff_exists_mem]
  exact exists_congr h.2

/-! ## The report -/

section
variable {formula : Text} (hformula : strip formula ≠ []) (declared : List Declaration)

include hformula

/-- Declarations are accepted where they declare the variables. -/
theorem valid_check_iff_declares :
    (check formula declared).valid = true ↔
      ∀ x, x ∈ Formula.symbols formula ↔ Declares declared x := by
  rw [valid_check_iff, if_neg hformula]
  simp only [List.subset_def, (lists_symbols declared).2]
  exact ⟨fun h x => ⟨fun hx => h.1 hx, fun hx => h.2 hx⟩,
    fun h => ⟨fun hx => (h _).mp hx, fun hx => (h _).mpr hx⟩⟩

/-- Variables that are not declared are reported. -/
theorem check_of_missing (h : ∃ x, x ∈ Formula.symbols formula ∧ ¬Declares declared x) :
    ∃ missing, Lists missing (fun x => x ∈ Formula.symbols formula ∧ ¬Declares declared x) ∧
      check formula declared =
        .fail ("Missing variable declarations: " ++ Text.join ", " missing) := by
  have hmissing := (lists_formulaSymbols formula).without (lists_symbols declared)
  refine ⟨_, hmissing, ?_⟩
  rw [check, examine_of_ne_nil hformula, if_pos (hmissing.ne_nil_iff.mpr h)]
  rfl

/-- Declared symbols that are no variables are reported where every
variable is declared. -/
theorem check_of_unused (hall : ∀ x ∈ Formula.symbols formula, Declares declared x)
    (h : ∃ x, Declares declared x ∧ x ∉ Formula.symbols formula) :
    ∃ unused, Lists unused (fun x => Declares declared x ∧ x ∉ Formula.symbols formula) ∧
      check formula declared =
        .fail ("Variables not used in the formula: " ++ Text.join ", " unused
          ++ ". Remove them or use them in the formula.") := by
  have hunused := (lists_symbols declared).without (lists_formulaSymbols formula)
  have hnone : without (Formula.symbols formula) (symbols declared) = [] := by
    rw [without_eq_nil_iff]
    exact fun x hx => ((lists_symbols declared).2 x).mpr (hall x hx)
  refine ⟨_, hunused, ?_⟩
  rw [check, examine_of_ne_nil hformula, if_neg (not_not.mpr hnone),
    if_pos (hunused.ne_nil_iff.mpr h)]
  rfl

/-- Only what is declared counts. -/
theorem check_congr {declared declared' : List Declaration}
    (h : ∀ x, Declares declared x ↔ Declares declared' x) :
    check formula declared = check formula declared' := by
  have hsame : symbols declared = symbols declared' :=
    (lists_symbols declared).unique
      ⟨(lists_symbols declared').1, fun x => ((lists_symbols declared').2 x).trans (h x).symm⟩
  rw [check, check, examine_of_ne_nil hformula, examine_of_ne_nil hformula, hsame]

end

/-- The two lists never differ in their lengths alone. -/
theorem examine_ne_uneven (formula : Text) (declared : List Declaration) :
    examine formula declared ≠ .uneven := by
  by_cases hformula : strip formula = []
  · rw [examine, hformula, List.isEmpty_nil, if_pos rfl]
    split <;> simp
  · rw [examine_of_ne_nil hformula]
    split_ifs <;> simp

/-! ## Rearranged declarations -/

/-- Declarations that differ in their order, in repetitions, in blanks
around symbols, and in declarations of blank symbols. -/
inductive Rearranged : List Declaration → List Declaration → Prop
  | permuted {ds ds' : List Declaration} (h : ds.Perm ds') : Rearranged ds ds'
  | repeated {d : Declaration} {ds : List Declaration} (h : d ∈ ds) : Rearranged ds (d :: ds)
  | padded {d d' : Declaration} (ds : List Declaration) (h : strip d.symbol = strip d'.symbol) :
      Rearranged (d :: ds) (d' :: ds)
  | blank {d : Declaration} (ds : List Declaration) (h : strip d.symbol = []) :
      Rearranged ds (d :: ds)
  | trans {ds ds' ds'' : List Declaration} (h : Rearranged ds ds') (h' : Rearranged ds' ds'') :
      Rearranged ds ds''

theorem declares_cons_iff {d : Declaration} {ds : List Declaration} {x : Text} :
    Declares (d :: ds) x ↔ (x ≠ [] ∧ strip d.symbol = x) ∨ Declares ds x := by
  simp only [Declares, List.exists_mem_cons_iff, and_or_left]

/-- Rearranged declarations declare the same symbols. -/
theorem Rearranged.declares_iff {ds ds' : List Declaration} (h : Rearranged ds ds') (x : Text) :
    Declares ds x ↔ Declares ds' x := by
  induction h with
  | permuted h => simp only [Declares, h.mem_iff]
  | repeated h =>
    rw [declares_cons_iff]
    exact ⟨Or.inr, fun hx => hx.elim (fun hd => ⟨hd.1, _, h, hd.2⟩) id⟩
  | padded ds h => rw [declares_cons_iff, declares_cons_iff, h]
  | blank ds h =>
    rw [declares_cons_iff]
    exact ⟨Or.inr, fun hx => hx.elim (fun hd => absurd (hd.2.symm.trans h) hd.1) id⟩
  | trans _ _ ih ih' => exact ih.trans ih'

/-- The variables of a formula, declared as they are, are declared. -/
theorem declares_ofSymbols_iff (formula x : Text) :
    Declares (ofSymbols (Formula.symbols formula)) x ↔ x ∈ Formula.symbols formula := by
  have hstrip : ∀ y ∈ Formula.symbols formula, strip y = y :=
    fun y hy => Formula.strip_of_isSymbol (Formula.isSymbol_of_mem_symbols hy)
  constructor
  · rintro ⟨-, d, hd, rfl⟩
    obtain ⟨y, hy, rfl⟩ := List.mem_map.mp hd
    rwa [hstrip y hy]
  · intro hx
    refine ⟨?_, _, List.mem_map_of_mem hx, hstrip x hx⟩
    rintro rfl
    cases Formula.isSymbol_of_mem_symbols hx

/-- The variables of a formula, declared as they are, are accepted,
those of a blank formula too: there are none. -/
theorem valid_check_ofSymbols (formula : Text) :
    (check formula (ofSymbols (Formula.symbols formula))).valid = true := by
  by_cases hformula : strip formula = []
  · rw [valid_check_iff, if_pos hformula, ← Formula.symbols_strip, hformula, Formula.symbols_nil]
    rfl
  · rw [valid_check_iff_declares hformula]
    exact fun x => (declares_ofSymbols_iff formula x).symm

/-- **Declarations are compared with a formula as sets.** Without a
formula nothing may be declared. With one, declarations are accepted
exactly if the declared symbols are the variables; otherwise the
variables that are not declared are reported, and where there are none
the declared symbols that are no variables, in code-point order and once
each. Where neither are left the two lists have one length, so they never
differ in that alone. Rearranging the declarations changes nothing at all,
and the variables of a formula may always be declared as they are. -/
theorem check_reports_difference (formula : Text) (declared : List Declaration) :
    let used := Formula.symbols formula
    (strip formula = [] → ((check formula declared).valid = true ↔ declared = [])) ∧
    (strip formula ≠ [] →
      ((check formula declared).valid = true ↔ ∀ x, x ∈ used ↔ Declares declared x) ∧
      ((∃ x, x ∈ used ∧ ¬Declares declared x) →
        ∃ missing, Lists missing (fun x => x ∈ used ∧ ¬Declares declared x) ∧
          check formula declared =
            .fail ("Missing variable declarations: " ++ Text.join ", " missing)) ∧
      ((∀ x ∈ used, Declares declared x) → (∃ x, Declares declared x ∧ x ∉ used) →
        ∃ unused, Lists unused (fun x => Declares declared x ∧ x ∉ used) ∧
          check formula declared =
            .fail ("Variables not used in the formula: " ++ Text.join ", " unused
              ++ ". Remove them or use them in the formula.")) ∧
      ∀ declared', Rearranged declared declared' →
        check formula declared' = check formula declared) ∧
    (without used (symbols declared) = [] → without (symbols declared) used = [] →
      used.length = (symbols declared).length) ∧
    examine formula declared ≠ .uneven ∧
    (check formula (ofSymbols used)).valid = true := by
  intro used
  refine ⟨fun hblank => ?_, fun hformula => ⟨valid_check_iff_declares hformula declared,
    check_of_missing hformula declared, check_of_unused hformula declared, ?_⟩, ?_,
    examine_ne_uneven formula declared, valid_check_ofSymbols formula⟩
  · rw [valid_check_iff, if_pos hblank]
  · intro declared' h
    exact (check_congr hformula h.declares_iff).symm
  · intro hmissing hunused
    exact congrArg List.length (formulaSymbols_eq_of_without hmissing hunused)

/-- Symbols that are declared with blanks around them, twice, and beside a
blank one. -/
def loosely : List Declaration := [⟨" B ", []⟩, ⟨"A", []⟩, ⟨"\t", []⟩, ⟨"A", []⟩]

/-- A division is content with such declarations, in whatever order; it
misses what is not declared, and reports what is not used otherwise. -/
theorem check_reports_difference_division :
    (check "A / B" loosely).valid = true ∧
    check "A / B" loosely.reverse = check "A / B" loosely ∧
    (∃ missing, Lists missing (fun x => x ∈ Formula.symbols "C / A" ∧ ¬Declares loosely x) ∧
      check "C / A" loosely = .fail ("Missing variable declarations: " ++ Text.join ", " missing)) ∧
    (∃ unused, Lists unused (fun x => Declares loosely x ∧ x ∉ Formula.symbols "A") ∧
      check "A" loosely = .fail ("Variables not used in the formula: " ++ Text.join ", " unused
        ++ ". Remove them or use them in the formula.")) ∧
    ((check " " loosely).valid = true ↔ loosely = []) := by
  have hdivision := (check_reports_difference "A / B" loosely).2.1 (by decide)
  have hother := (check_reports_difference "C / A" loosely).2.1 (by decide)
  have hsingle := (check_reports_difference "A" loosely).2.1 (by decide)
  refine ⟨by decide +kernel, hdivision.2.2.2 _ ?_, hother.2.1 ⟨"C", by decide +kernel⟩,
    hsingle.2.2.1 (by decide +kernel) ⟨"B", by decide +kernel⟩,
    (check_reports_difference " " loosely).1 (by decide)⟩
  exact .permuted (List.reverse_perm loosely).symm

end MetricAudit.Declaration
