/-
MetricAudit.Proofs.Metric.Declaration — what accepted declarations say.

The check of the declarations compares two lists that were sorted
separately, the variables of the stripped formula and the declared
symbols, by looking for members of one that the other lacks. Both ascend
strictly, so where neither lacks anything they are one list
(`symbols_eq_of_valid_check`).
-/
import Mathlib.Data.List.Perm.Basic
import MetricAudit.Metric.Declaration
import MetricAudit.Metric.Field
import MetricAudit.Proofs.Formula.Spacing

namespace MetricAudit

open Text (strip)

/-- Ascending lists with the same members are equal. -/
theorem Text.eq_of_pairwise_lt {xs ys : List Text} (hx : xs.Pairwise (· < ·))
    (hy : ys.Pairwise (· < ·)) (h : ∀ t, t ∈ xs ↔ t ∈ ys) : xs = ys := by
  have hne : ∀ {x y : Text}, x < y → x ≠ y := by
    rintro x _ hlt rfl
    exact List.lt_irrefl x hlt
  have hperm : xs.Perm ys :=
    (List.perm_ext_iff_of_nodup (hx.imp hne) (hy.imp hne)).mpr h
  refine hperm.eq_of_pairwise ?_ hx hy
  intro x y _ _ hxy hyx
  exact absurd hyx (List.lt_asymm hxy)

/-! ## Symbols -/

namespace Field

/-- A text passes when its length is within the bounds. -/
theorem valid_checkLength_iff (subject : Text) (least most : Nat) (success text : Text) :
    (checkLength subject least most success text).valid = true ↔
      least ≤ text.length ∧ text.length ≤ most := by
  rw [checkLength]
  split
  · rename_i hshort
    exact iff_of_false Bool.false_ne_true fun h => absurd h.1 (Nat.not_le.mpr hshort)
  · rename_i hleast
    split
    · rename_i hlong
      exact iff_of_false Bool.false_ne_true fun h => absurd h.2 (Nat.not_le.mpr hlong)
    · rename_i hmost
      exact iff_of_true rfl ⟨Nat.not_lt.mp hleast, Nat.not_lt.mp hmost⟩

/-- A symbol passes when it is one and is not too long. -/
theorem valid_checkSymbol_iff (entry : Text) :
    (checkSymbol entry).valid = true ↔
      Formula.isSymbol (strip entry) = true ∧ (strip entry).length ≤ symbolMost := by
  rw [checkSymbol]
  cases hs : strip entry with
  | nil => exact iff_of_false Bool.false_ne_true fun h => Bool.false_ne_true h.1
  | cons c cs =>
    cases hsymbol : Formula.isSymbol (c :: cs) with
    | false => exact iff_of_false Bool.false_ne_true fun h => Bool.false_ne_true h.1
    | true =>
      simp only [List.isEmpty_cons, Bool.not_true, Bool.false_eq_true, if_false, true_and,
        valid_checkLength_iff]
      exact and_iff_right (Nat.zero_le _)

end Field

namespace Declaration

theorem mem_symbols_iff {declared : List Declaration} {x : Text} :
    x ∈ symbols declared ↔ (∃ d ∈ declared, strip d.symbol = x) ∧ x ≠ [] := by
  rw [symbols, Text.mem_sortedDistinct, List.mem_filter, List.mem_map]
  simp

/-- No member of the one list is missing from the other. -/
theorem without_eq_nil_iff {these those : List Text} :
    without these those = [] ↔ these ⊆ those := by
  simp only [without, List.filter_eq_nil_iff, Bool.not_eq_true', Bool.not_eq_false,
    List.contains_iff_mem]
  rfl

/-- Where neither list has what the other lacks, they are one list. -/
theorem formulaSymbols_eq_of_without {formula : Text} {declared : List Declaration}
    (hmissing : without (Formula.symbols formula) (symbols declared) = [])
    (hunused : without (symbols declared) (Formula.symbols formula) = []) :
    Formula.symbols formula = symbols declared := by
  rw [without_eq_nil_iff] at hmissing hunused
  exact Text.eq_of_pairwise_lt (Text.pairwise_sortedDistinct _) (Text.pairwise_sortedDistinct _)
    fun x => ⟨fun hx => hmissing hx, fun hx => hunused hx⟩

/-- With a formula the two lists are compared by what each has that the
other lacks, and their lengths never differ beyond that. -/
theorem examine_of_ne_nil {formula : Text} (hformula : strip formula ≠ [])
    (declared : List Declaration) :
    examine formula declared =
      if without (Formula.symbols formula) (symbols declared) ≠ [] then
        .missing (without (Formula.symbols formula) (symbols declared))
      else if without (symbols declared) (Formula.symbols formula) ≠ [] then
        .unused (without (symbols declared) (Formula.symbols formula))
      else .agreed (Formula.symbols formula).length := by
  unfold examine
  rw [if_neg (by simpa using hformula)]
  dsimp only
  rw [Formula.symbols_strip]
  by_cases hmissing : without (Formula.symbols formula) (symbols declared) = []
  · by_cases hunused : without (symbols declared) (Formula.symbols formula) = []
    · have hlength := congrArg List.length (formulaSymbols_eq_of_without hmissing hunused)
      simp [hmissing, hunused, hlength]
    · simp [hmissing, hunused]
  · simp [hmissing]

/-- Nothing is declared without a formula, and the symbols of its
variables with one: that is what is accepted. -/
theorem valid_check_iff (formula : Text) (declared : List Declaration) :
    (check formula declared).valid = true ↔
      if strip formula = [] then declared = []
      else Formula.symbols formula ⊆ symbols declared ∧
        symbols declared ⊆ Formula.symbols formula := by
  rw [← without_eq_nil_iff, ← without_eq_nil_iff, check]
  split
  · rename_i hblank
    rw [examine, hblank, List.isEmpty_nil, if_pos rfl]
    cases declared with
    | nil => exact iff_of_true rfl rfl
    | cons d ds => exact iff_of_false Bool.false_ne_true (List.cons_ne_nil d ds)
  · rename_i hformula
    rw [examine_of_ne_nil hformula]
    split_ifs with hmissing hunused
    · exact iff_of_false Bool.false_ne_true fun h => hmissing h.1
    · exact iff_of_false Bool.false_ne_true fun h => hunused h.2
    · exact iff_of_true rfl ⟨not_not.mp hmissing, not_not.mp hunused⟩

/-- The variables of a formula are the symbols of the declarations that
are accepted for it. -/
theorem symbols_eq_of_valid_check {formula : Text} {declared : List Declaration}
    (h : (check formula declared).valid = true) :
    Formula.symbols formula = symbols declared := by
  rw [valid_check_iff] at h
  split at h
  · rename_i hblank
    rw [h, ← Formula.symbols_strip, hblank, Formula.symbols_nil]
    rfl
  · exact Text.eq_of_pairwise_lt (Text.pairwise_sortedDistinct _)
      (Text.pairwise_sortedDistinct _) fun x => ⟨fun hx => h.1 hx, fun hx => h.2 hx⟩

end Declaration
end MetricAudit
