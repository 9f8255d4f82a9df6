/-
MetricAudit.Proofs.Formula.Division — divisors and direct divisions.

Whatever a formula divides by is a variable of it (`divisors_subset`),
so restricting the divisors to the variables loses none
(`mem_denominators_iff`). This holds for every list of tokens, also
where groups are left open or closed too often. The divisors of a
formula and its direct division depend on its outline only
(`denominators_congr`, `directDivision?_congr`), so blanks around the
formula make no difference to them (`denominators_strip`,
`directDivision?_strip`).

The right side of a direct division is such a divisor
(`right_mem_denominators`), although the two are found by separate scans.
-/
import MetricAudit.Formula.Division
import MetricAudit.Proofs.Formula.Spacing

namespace MetricAudit.Formula

open Text (strip)

/-! ## Divisors are variables -/

theorem symbolsIn_subset_cons (t : Token) (ts : List Token) :
    symbolsIn ts ⊆ symbolsIn (t :: ts) :=
  List.map_subset _ ((List.sublist_cons_self t ts).filter _).subset

/-- A group holds variables of what follows its opening. -/
theorem groupSymbols_subset (depth : Nat) (ts : List Token) :
    groupSymbols depth ts ⊆ symbolsIn ts := by
  fun_induction groupSymbols depth ts with
  | case1 => exact List.nil_subset _
  | case2 depth t ts ht ih =>
    rw [symbolsIn_cons_of_variable ht]
    exact List.cons_subset_cons _ ih
  | case3 depth t ts ht ih => exact List.Subset.trans ih (symbolsIn_subset_cons t ts)
  | case4 t ts ht => exact List.nil_subset _
  | case5 t ts ht depth ih => exact List.Subset.trans ih (symbolsIn_subset_cons t ts)
  | case6 depth t ts _ _ _ ih => exact List.Subset.trans ih (symbolsIn_subset_cons t ts)

theorem operandSymbols_subset (ts : List Token) : operandSymbols ts ⊆ symbolsIn ts := by
  fun_cases operandSymbols ts with
  | case1 => exact List.nil_subset _
  | case2 t ts ht =>
    rw [symbolsIn_cons_of_variable ht]
    exact List.cons_subset_cons _ (List.nil_subset _)
  | case3 t ts ht =>
    exact List.Subset.trans (groupSymbols_subset 0 ts) (symbolsIn_subset_cons t ts)
  | case4 t ts _ _ => exact List.nil_subset _

theorem divisorsIn_subset (ts : List Token) : divisorsIn ts ⊆ symbolsIn ts := by
  induction ts with
  | nil => exact List.nil_subset _
  | cons t ts ih =>
    have hrest := symbolsIn_subset_cons t ts
    unfold divisorsIn
    split
    · exact List.append_subset.mpr
        ⟨List.Subset.trans (operandSymbols_subset ts) hrest, List.Subset.trans ih hrest⟩
    · exact List.Subset.trans ih hrest

/-- What a formula divides by is a variable of it. -/
theorem divisors_subset (formula : Text) : divisors formula ⊆ symbols formula := by
  intro x hx
  rw [symbols, Text.mem_sortedDistinct, ← symbolsIn_significantTokens]
  exact divisorsIn_subset _ hx

/-- The denominators are the divisors. -/
theorem mem_denominators_iff {formula x : Text} :
    x ∈ denominators formula ↔ x ∈ divisors formula := by
  rw [denominators, denominatorsAmong, List.mem_filter, List.contains_iff_mem]
  exact ⟨fun h => h.2, fun h => ⟨divisors_subset formula h, h⟩⟩

/-! ## Places -/

theorem groupSymbols_map_unplaced (depth : Nat) (ts : List Token) :
    groupSymbols depth (ts.map Token.unplaced) = groupSymbols depth ts := by
  induction ts generalizing depth with
  | nil => rfl
  | cons t ts ih =>
    cases depth with
    | zero =>
      rw [List.map_cons, groupSymbols, groupSymbols, ih, ih]
      rfl
    | succ d =>
      rw [List.map_cons, groupSymbols, groupSymbols, ih, ih, ih]
      rfl

theorem operandSymbols_map_unplaced (ts : List Token) :
    operandSymbols (ts.map Token.unplaced) = operandSymbols ts := by
  cases ts with
  | nil => rfl
  | cons t ts =>
    simp only [List.map_cons, operandSymbols, groupSymbols_map_unplaced]
    rfl

theorem divisorsIn_map_unplaced (ts : List Token) :
    divisorsIn (ts.map Token.unplaced) = divisorsIn ts := by
  induction ts with
  | nil => rfl
  | cons t ts ih =>
    rw [List.map_cons, divisorsIn, divisorsIn, ih, operandSymbols_map_unplaced]
    rfl

/-- Where the tokens of a formula start makes no difference to what it
divides by. -/
theorem divisors_eq (formula : Text) : divisors formula = divisorsIn (outline formula) :=
  (divisorsIn_map_unplaced _).symm

/-- The empty symbol and the empty formula need no exception: neither is
among divisors, nor has any. -/
theorem isDenominator_eq_contains (formula x : Text) :
    isDenominator formula x = (divisors formula).contains x := by
  unfold isDenominator
  split
  · rename_i hempty
    rw [eq_comm, Bool.eq_false_iff, Ne, List.contains_iff_mem]
    intro hx
    rcases Bool.or_eq_true_iff.mp hempty with hsymbol | hformula
    · rw [List.isEmpty_iff.mp hsymbol] at hx
      cases isSymbol_of_mem_symbols (divisors_subset formula hx)
    · rw [List.isEmpty_iff.mp hformula, divisors_eq, outline_nil] at hx
      cases hx
  · rfl

/-- A symbol divides exactly if it is among the denominators. -/
theorem isDenominator_iff_mem {formula x : Text} :
    isDenominator formula x = true ↔ x ∈ denominators formula := by
  rw [isDenominator_eq_contains, List.contains_iff_mem, mem_denominators_iff]

@[simp] theorem Token.text_unplaced (t : Token) : t.unplaced.text = t.text := rfl

@[simp] theorem Token.isSlash_unplaced (t : Token) : t.unplaced.isSlash = t.isSlash := rfl

@[simp] theorem Token.isLetter_unplaced (t : Token) : t.unplaced.isLetter = t.isLetter := rfl

theorem directDivisionIn?_map_unplaced (ts : List Token) :
    directDivisionIn? (ts.map Token.unplaced) = directDivisionIn? ts := by
  fun_induction directDivisionIn? ts with
  | case1 left slash right rest hdirect => simp [directDivisionIn?, hdirect]
  | case2 left slash right rest hdirect ih =>
    simp only [List.map_cons] at ih
    simp [directDivisionIn?, hdirect, ih]
  | case3 ts hshort =>
    -- Moving the tokens keeps their number, so there still are fewer than three.
    match ts, hshort with
    | [], _ => rfl
    | [_], _ => rfl
    | [_, _], _ => rfl
    | t :: u :: v :: rest, hshort => exact absurd rfl (hshort t u v rest)

theorem directDivision?_eq (formula : Text) :
    directDivision? formula = directDivisionIn? (outline formula) :=
  (directDivisionIn?_map_unplaced _).symm

/-! ## Formulas with one outline -/

section

variable {formula formula' : Text} (h : outline formula = outline formula')

include h

theorem denominatorsAmong_congr (symbols : List Text) :
    denominatorsAmong formula symbols = denominatorsAmong formula' symbols := by
  unfold denominatorsAmong
  rw [divisors_eq, divisors_eq, h]

theorem denominators_congr : denominators formula = denominators formula' := by
  rw [denominators, denominatorsAmong_congr h, symbols_congr h, ← denominators]

theorem directDivision?_congr : directDivision? formula = directDivision? formula' := by
  rw [directDivision?_eq, directDivision?_eq, h]

end

theorem denominators_strip (formula : Text) :
    denominators (strip formula) = denominators formula :=
  denominators_congr (outline_strip formula)

theorem directDivision?_strip (formula : Text) :
    directDivision? (strip formula) = directDivision? formula :=
  directDivision?_congr (outline_strip formula)

/-! ## Direct divisions -/

theorem divisorsIn_subset_cons (t : Token) (ts : List Token) :
    divisorsIn ts ⊆ divisorsIn (t :: ts) := by
  rw [divisorsIn]
  split
  · exact List.subset_append_right _ _
  · exact List.Subset.refl _

theorem operandSymbols_of_variable {t : Token} (ht : t.kind = .variable) (ts : List Token) :
    operandSymbols (t :: ts) = [t.text] := by
  rw [operandSymbols, ht]

/-- The right side of a direct division is a divisor. -/
theorem right_mem_divisorsIn {ts : List Token} {x y : Text}
    (h : directDivisionIn? ts = some (x, y)) : y ∈ divisorsIn ts := by
  fun_induction directDivisionIn? ts with
  | case1 left slash right rest hdirect =>
    simp only [Bool.and_eq_true, Token.isLetter, decide_eq_true_eq] at hdirect
    obtain ⟨⟨hslash, _⟩, hright, _⟩ := hdirect
    obtain ⟨-, rfl⟩ := Prod.mk.inj (Option.some.inj h)
    have hy : right.text ∈ divisorsIn (slash :: right :: rest) := by
      rw [divisorsIn, if_pos hslash, operandSymbols_of_variable hright]
      exact List.mem_cons_self
    exact divisorsIn_subset_cons left _ hy
  | case2 left slash right rest hdirect ih =>
    exact divisorsIn_subset_cons left _ (ih h)
  | case3 ts hshort => cases h

theorem right_mem_denominators {formula x y : Text}
    (h : directDivision? formula = some (x, y)) : y ∈ denominators formula :=
  mem_denominators_iff.mpr (right_mem_divisorsIn h)

end MetricAudit.Formula
