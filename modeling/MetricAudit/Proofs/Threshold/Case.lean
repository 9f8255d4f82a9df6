/-
MetricAudit.Proofs.Threshold.Case — in which orders the cases of a pair
may be tried.

`Case.Fits` is the table of the cases: what each of them asks of a desired
and a worst-case threshold, either of which may be absent. The rows
overlap. A desired `0/1min` against `>=10/1min` fits the inverse ratio and
the time case, so the order in which they are tried decides.

It decides nothing else. A case that does not look into ratios is told by
the unit of the desired threshold, and where there is none by the
comparison of the worst case (`Fits.eq_candidate`), so no two of them fit.
The two that look into ratios disagree about the desired numerator. What
is found with these two in front is therefore found in every such order
(`IsSafe.find?_eq_some_iff`), and `classify_in_any_order` says so of two
texts, with what becomes of a pair that no case fits.
-/
import Mathlib.Data.List.Find
import MetricAudit.Threshold.Case

namespace MetricAudit.Threshold

namespace Case

/-! ## The table -/

/-- The cases that look at the sides of two ratios. -/
def isOnRatios : Case → Bool
  | .ratioWithMinimum | .inverseRatioWithMaximum => true
  | _ => false

/-- A pair meets everything that a case asks for. -/
inductive Fits : Option Threshold → Option Threshold → Case → Prop
  | simpleBinary {d : Threshold} (hunit : d.unit = none)
      (hvalue : isZero d = true ∨ amountsTo .one d = true) : Fits (some d) none .simpleBinary
  | ratioWithMinimum {d w : Threshold} {n m n' m' : Binary64}
      (hoperator : d.operator = some .atLeast) (hd : d.magnitude = .ratio n m)
      (hn : n.isZero = false) (hm : m.isZero = false) (hunit : d.unit ≠ none)
      (hw : w.magnitude = .ratio n' m') (hn' : n'.isZero = true) :
      Fits (some d) (some w) .ratioWithMinimum
  | inverseRatioWithMaximum {d w : Threshold} {n m n' m' : Binary64}
      (hd : d.magnitude = .ratio n m) (hn : n.isZero = true) (hm : m.isZero = false)
      (hoperator : w.operator = some .atLeast) (hw : w.magnitude = .ratio n' m')
      (hn' : n'.isZero = false) : Fits (some d) (some w) .inverseRatioWithMaximum
  | time {d w : Threshold} (hoperator : d.operator = none) (hunit : d.unit = some .minutes)
      (hoperator' : w.operator ≠ none) (hunit' : w.unit = some .minutes) :
      Fits (some d) (some w) .time
  | zeroWithMaximum {d w : Threshold} (hvalue : isZero d = true)
      (hoperator : w.operator = some .atLeast) (hunit : d.unit = some .longSeconds)
      (hunit' : w.unit = some .longSeconds) : Fits (some d) (some w) .zeroWithMaximum
  | percentageWithMaximum {d w : Threshold} (hvalue : isZero d = true)
      (hoperator : w.operator = some .atLeast) (hunit : d.unit = some .percent)
      (hunit' : w.unit = some .percent) : Fits (some d) (some w) .percentageWithMaximum
  | numericWithMaximum {d w : Threshold} (hoperator : d.operator = none) (hunit : d.unit = none)
      (hunit' : w.unit = none) (hoperator' : w.operator = some .atLeast) :
      Fits (some d) (some w) .numericWithMaximum
  -- a worst case from zero on is a maximum, not a minimum of zero
  | numericWithMinimum {d w : Threshold} (hoperator : d.operator = none) (hunit : d.unit = none)
      (hunit' : w.unit = none) (hoperator' : w.operator ≠ some .atLeast)
      (hvalue : isZero w = true) : Fits (some d) (some w) .numericWithMinimum

theorem ratioWith_eq_true_iff {p : Binary64 → Binary64 → Bool} {t : Threshold} :
    ratioWith p t = true ↔ ∃ n m, t.magnitude = .ratio n m ∧ p n m = true := by
  cases hm : t.magnitude with
  | scalar x => simp [ratioWith, hm]
  | ratio n m =>
    simp only [ratioWith, hm, Magnitude.ratio.injEq]
    exact ⟨fun hp => ⟨n, m, ⟨rfl, rfl⟩, hp⟩, by rintro ⟨_, _, ⟨rfl, rfl⟩, hp⟩; exact hp⟩

/-- Of two thresholds the table asks what is tested, and of a minimum of
zero also that it is no maximum. -/
theorem fits_iff_holds {d w : Threshold} {c : Case} :
    Fits (some d) (some w) c ↔
      holds d w c = true ∧ (c = .numericWithMinimum → w.operator ≠ some .atLeast) := by
  constructor
  · intro h
    cases h <;> simp_all [holds, ratioWith, Option.isSome_iff_ne_none]
  · rintro ⟨h, hminimum⟩
    cases c with
    | simpleBinary => cases h
    | ratioWithMinimum =>
      simp only [holds, Bool.and_eq_true, decide_eq_true_eq, ratioWith_eq_true_iff,
        Bool.not_eq_true', Option.isSome_iff_ne_none] at h
      obtain ⟨⟨⟨hoperator, n, m, hd, hn, hm⟩, hunit⟩, n', m', hw, hn'⟩ := h
      exact .ratioWithMinimum hoperator hd hn hm hunit hw hn'
    | inverseRatioWithMaximum =>
      simp only [holds, Bool.and_eq_true, decide_eq_true_eq, ratioWith_eq_true_iff,
        Bool.not_eq_true'] at h
      obtain ⟨⟨⟨n, m, hd, hn, hm⟩, hoperator⟩, n', m', hw, hn'⟩ := h
      exact .inverseRatioWithMaximum hd hn hm hoperator hw hn'
    | time =>
      simp only [holds, Bool.and_eq_true, decide_eq_true_eq, Option.isNone_iff_eq_none,
        Option.isSome_iff_ne_none] at h
      obtain ⟨⟨⟨hoperator, hunit⟩, hoperator'⟩, hunit'⟩ := h
      exact .time hoperator hunit hoperator' hunit'
    | zeroWithMaximum =>
      simp only [holds, Bool.and_eq_true, decide_eq_true_eq] at h
      obtain ⟨⟨⟨hvalue, hoperator⟩, hunit⟩, hunit'⟩ := h
      exact .zeroWithMaximum hvalue hoperator hunit hunit'
    | percentageWithMaximum =>
      simp only [holds, Bool.and_eq_true, decide_eq_true_eq] at h
      obtain ⟨⟨⟨hvalue, hoperator⟩, hunit⟩, hunit'⟩ := h
      exact .percentageWithMaximum hvalue hoperator hunit hunit'
    | numericWithMaximum =>
      simp only [holds, Bool.and_eq_true, decide_eq_true_eq, Option.isNone_iff_eq_none] at h
      obtain ⟨⟨⟨hoperator, hunit⟩, hunit'⟩, hoperator'⟩ := h
      exact .numericWithMaximum hoperator hunit hunit' hoperator'
    | numericWithMinimum =>
      simp only [holds, Bool.and_eq_true, Option.isNone_iff_eq_none] at h
      obtain ⟨⟨⟨hoperator, hunit⟩, hunit'⟩, hvalue⟩ := h
      exact .numericWithMinimum hoperator hunit hunit' (hminimum rfl) hvalue

theorem fits_none_iff {d : Threshold} {c : Case} :
    Fits (some d) none c ↔
      c = .simpleBinary ∧ d.unit = none ∧ (isZero d = true ∨ amountsTo .one d = true) := by
  constructor
  · intro h
    cases h with
    | simpleBinary hunit hvalue => exact ⟨rfl, hunit, hvalue⟩
  · rintro ⟨rfl, hunit, hvalue⟩
    exact .simpleBinary hunit hvalue

theorem not_fits_none {w : Option Threshold} {c : Case} : ¬Fits none w c :=
  fun h => nomatch h

instance (d w : Option Threshold) (c : Case) : Decidable (Fits d w c) :=
  match d, w with
  | none, _ => .isFalse not_fits_none
  | some _, none => decidable_of_iff _ fits_none_iff.symm
  | some _, some _ => decidable_of_iff _ fits_iff_holds.symm

/-! ## Overlaps -/

section
variable {d w : Option Threshold} {c c' : Case}

/-- The one case that may fit, of those that do not look into ratios. -/
def candidate (d w : Option Threshold) : Case :=
  match w with
  | none => .simpleBinary
  | some w =>
    match d.bind (·.unit) with
    | some .minutes => .time
    | some .longSeconds => .zeroWithMaximum
    | some .percent => .percentageWithMaximum
    | _ => if w.operator = some .atLeast then .numericWithMaximum else .numericWithMinimum

theorem Fits.eq_candidate (h : Fits d w c) (hc : c.isOnRatios = false) : c = candidate d w := by
  cases h with
  | simpleBinary => rfl
  | ratioWithMinimum => cases hc
  | inverseRatioWithMaximum => cases hc
  | time _ hunit => simp [candidate, hunit]
  | zeroWithMaximum _ _ hunit => simp [candidate, hunit]
  | percentageWithMaximum _ _ hunit => simp [candidate, hunit]
  | numericWithMaximum _ hunit _ hoperator => simp [candidate, hunit, hoperator]
  | numericWithMinimum _ hunit _ hoperator => simp [candidate, hunit, hoperator]

/-- Of the cases that do not look into ratios at most one fits. -/
theorem Fits.unique_of_not_onRatios (h : Fits d w c) (h' : Fits d w c')
    (hc : c.isOnRatios = false) (hc' : c'.isOnRatios = false) : c = c' :=
  (h.eq_candidate hc).trans (h'.eq_candidate hc').symm

/-- The desired numerator of the one ratio case is zero, and that of the
other is not. -/
theorem not_fits_both_ratios :
    ¬(Fits d w .ratioWithMinimum ∧ Fits d w .inverseRatioWithMaximum) := by
  rintro ⟨hminimum, hmaximum⟩
  cases hminimum with
  | ratioWithMinimum _ hd hn =>
    cases hmaximum with
    | inverseRatioWithMaximum hd' hn' =>
      rw [hd] at hd'
      obtain ⟨rfl, -⟩ := Magnitude.ratio.inj hd'
      rw [hn] at hn'
      cases hn'

theorem Fits.unique_of_onRatios (h : Fits d w c) (h' : Fits d w c')
    (hc : c.isOnRatios = true) (hc' : c'.isOnRatios = true) : c = c' := by
  cases c <;> cases hc <;> cases c' <;> cases hc'
  · rfl
  · exact absurd ⟨h, h'⟩ not_fits_both_ratios
  · exact absurd ⟨h', h⟩ not_fits_both_ratios
  · rfl

/-- The simple binary case is the one for want of a worst case. -/
theorem Fits.eq_simpleBinary_iff (h : Fits d w c) : c = .simpleBinary ↔ w = none := by
  cases h <;> simp

/-! ## Orders -/

/-- All cases in an order where those on ratios come before the others.
The simple binary case has no competitor and may stand anywhere. -/
structure IsSafe (order : List Case) : Prop where
  complete : ∀ c, c ∈ order
  ratiosFirst : order.Pairwise fun c c' =>
    c'.isOnRatios = true → c.isOnRatios = true ∨ c = .simpleBinary

/-- The case fits, and if a case on ratios fits it is one of these. -/
def Prevails (d w : Option Threshold) (c : Case) : Prop :=
  Fits d w c ∧ (c.isOnRatios = true ∨ ∀ r, r.isOnRatios = true → ¬Fits d w r)

theorem Prevails.unique (h : Prevails d w c) (h' : Prevails d w c') : c = c' := by
  obtain ⟨hfits, hc⟩ := h
  obtain ⟨hfits', hc'⟩ := h'
  cases hratio : c.isOnRatios with
  | true =>
    have hratio' := hc'.resolve_right fun hnone => hnone c hratio hfits
    exact hfits.unique_of_onRatios hfits' hratio hratio'
  | false =>
    have hnone := hc.resolve_left (by simp [hratio])
    have hratio' : c'.isOnRatios = false :=
      Bool.eq_false_iff.mpr fun hratio' => hnone c' hratio' hfits'
    exact hfits.unique_of_not_onRatios hfits' hratio hratio'

/-- In a safe order the first case that fits prevails. -/
theorem IsSafe.prevails_of_find? {order : List Case} (h : IsSafe order)
    (hfind : order.find? (fun c => Fits d w c) = some c) : Prevails d w c := by
  obtain ⟨hfits, before, after, horder, hbefore⟩ := List.find?_eq_some_iff_append.mp hfind
  have hfits := of_decide_eq_true hfits
  refine ⟨hfits, Classical.or_iff_not_imp_left.mpr fun hc r hr hfitsr => ?_⟩
  have hmem := h.complete r
  have hordered := h.ratiosFirst
  rw [horder] at hmem hordered
  rcases List.mem_append.mp hmem with hmem | hmem
  · have hnot := hbefore r hmem
    simp [hfitsr] at hnot
  · rcases List.mem_cons.mp hmem with rfl | hmem
    · exact hc hr
    · have hafter := (List.pairwise_cons.mp (List.pairwise_append.mp hordered).2.1).1 r hmem hr
      have hsimple := hafter.resolve_left hc
      -- the simple binary case stands in front, but there is no worst case then
      have hworst := hfits.eq_simpleBinary_iff.mp hsimple
      rw [hfitsr.eq_simpleBinary_iff.mpr hworst] at hr
      cases hr

/-- What is found in a safe order does not depend on the order. -/
theorem IsSafe.find?_eq_some_iff {order : List Case} (h : IsSafe order) :
    order.find? (fun c => Fits d w c) = some c ↔ Prevails d w c := by
  refine ⟨h.prevails_of_find?, fun hprevails => ?_⟩
  have hsome : (order.find? fun c => Fits d w c).isSome = true :=
    List.find?_isSome.mpr ⟨c, h.complete c, decide_eq_true hprevails.1⟩
  obtain ⟨c', hfind⟩ := Option.isSome_iff_exists.mp hsome
  rw [hfind, (h.prevails_of_find? hfind).unique hprevails]

theorem IsSafe.find?_eq {order order' : List Case} (h : IsSafe order) (h' : IsSafe order') :
    order.find? (fun c => Fits d w c) = order'.find? fun c => Fits d w c := by
  ext c
  rw [h.find?_eq_some_iff, h'.find?_eq_some_iff]

end

/-- The order in which the cases are tried. -/
theorem isSafe_order : IsSafe (.simpleBinary :: order) where
  complete c := by cases c <;> decide
  ratiosFirst := by decide

/-- Where a maximum is tried before, nothing more is asked of a minimum of
zero than what is tested. -/
theorem find?_holds_order (d w : Threshold) :
    order.find? (holds d w) = order.find? fun c => Fits (some d) (some w) c := by
  have hsplit : order = order.dropLast ++ [.numericWithMinimum] := rfl
  have hmem : Case.numericWithMaximum ∈ order.dropLast := by decide
  have hearlier : ∀ c ∈ order.dropLast, holds d w c = decide (Fits (some d) (some w) c) := by
    intro c hc
    have hne : c ≠ .numericWithMinimum := by
      rintro rfl
      revert hc
      decide
    rw [Bool.eq_iff_iff, decide_eq_true_iff, fits_iff_holds]
    exact (and_iff_left fun hlast => absurd hlast hne).symm
  rw [hsplit, List.find?_append, List.find?_append, List.find?_congr hearlier]
  cases hfind : order.dropLast.find? fun c => Fits (some d) (some w) c with
  | some c => rfl
  | none =>
    have hmaximum : ¬Fits (some d) (some w) .numericWithMaximum := by
      simpa using List.find?_eq_none.mp hfind _ hmem
    have hminimum : holds d w .numericWithMinimum =
        decide (Fits (some d) (some w) .numericWithMinimum) := by
      rw [Bool.eq_iff_iff, decide_eq_true_iff, fits_iff_holds]
      refine (and_iff_left_of_imp fun hholds _ hoperator => hmaximum ?_).symm
      simp only [holds, Bool.and_eq_true, Option.isNone_iff_eq_none] at hholds
      obtain ⟨⟨⟨hnone, hunit⟩, hunit'⟩, -⟩ := hholds
      exact .numericWithMaximum hnone hunit hunit' hoperator
    rw [List.find?_singleton, List.find?_singleton, hminimum]

/-- The case of a pair is the first one in the table that fits. -/
theorem ofPair?_eq_find? (d w : Option Threshold) :
    ofPair? d w = (simpleBinary :: order).find? fun c => Fits d w c := by
  cases d with
  | none => exact (List.find?_eq_none.mpr fun c _ => by simp [not_fits_none]).symm
  | some d =>
    cases w with
    | none =>
      have hnone : order.find? (fun c => Fits (some d) none c) = none := by
        refine List.find?_eq_none.mpr fun c hc => ?_
        rw [decide_eq_true_iff, fits_none_iff]
        rintro ⟨rfl, -⟩
        revert hc
        decide
      have htested : (d.unit.isNone && (isZero d || amountsTo .one d)) =
          decide (Fits (some d) none .simpleBinary) := by
        rw [Bool.eq_iff_iff, decide_eq_true_iff, fits_none_iff]
        simp
      rw [List.find?_cons, hnone, ofPair?, ofDesired?, htested]
      cases decide (Fits (some d) none .simpleBinary) <;> rfl
    | some w =>
      have hfirst : ¬Fits (some d) (some w) .simpleBinary := fun h => nomatch h
      rw [List.find?_cons, decide_eq_false hfirst]
      exact find?_holds_order d w

end Case

open Case (Fits IsSafe)

/-! ## Two texts -/

/-- The case of a pair, the cases being tried in this order. For want of
one it is the simple binary case, and then there is no worst case. -/
def classifyBy (order : List Case) (d w : Option Threshold) : Classified :=
  match order.find? fun c => Fits d w c with
  | some case => ⟨case, d, w⟩
  | none => ⟨.simpleBinary, d, none⟩

theorem classifyPair_eq (d w : Option Threshold) :
    classifyPair d w = classifyBy (.simpleBinary :: Case.order) d w := by
  rw [classifyPair, Case.ofPair?_eq_find?]
  rfl

theorem classifyBy_eq_classifyPair {order : List Case} (h : IsSafe order)
    (d w : Option Threshold) : classifyBy order d w = classifyPair d w := by
  rw [classifyPair_eq, classifyBy, classifyBy, h.find?_eq Case.isSafe_order]

theorem ofPair?_eq_none_iff {d w : Option Threshold} :
    Case.ofPair? d w = none ↔ ∀ c, ¬Fits d w c := by
  rw [Case.ofPair?_eq_find?, List.find?_eq_none]
  simp only [decide_eq_true_iff]
  exact ⟨fun h c => h c (Case.isSafe_order.complete c), fun h c _ => h c⟩

theorem fits_of_ofPair? {d w : Option Threshold} {c : Case} (h : Case.ofPair? d w = some c) :
    Fits d w c := by
  rw [Case.ofPair?_eq_find?] at h
  exact (Case.isSafe_order.prevails_of_find? h).1

/-- The warning that no case fits. -/
def fallbackWarning (desired worst : Option Text) : Log.Remark :=
  ⟨.warning, "no threshold case matched desired=" ++ Text.quoted? desired
    ++ " worst=" ++ Text.quoted? worst ++ "; using simple binary"⟩

/-- There is no warning about a text that is read in vain. -/
theorem atLeast_warning_parseRemarks (entry : Text) :
    Log.atLeast .warning (parseRemarks entry) = [] := by
  unfold parseRemarks
  dsimp only
  split
  · rfl
  · split <;> rfl

theorem atLeast_warning_classifyRemarks (desired worst : Option Text) :
    Log.atLeast .warning (classifyRemarks desired worst) =
      match Case.ofPair? (parse? (Text.entered desired)) (parse? (Text.entered worst)) with
      | some _ => []
      | none => [fallbackWarning desired worst] := by
  have hdesired := atLeast_warning_parseRemarks (Text.entered desired)
  have hworst := atLeast_warning_parseRemarks (Text.entered worst)
  rw [Log.atLeast] at hdesired hworst
  rw [Log.atLeast, classifyRemarks, List.filter_append, List.filter_append, hdesired, hworst]
  cases Case.ofPair? (parse? (Text.entered desired)) (parse? (Text.entered worst)) <;> rfl

/-- A case other than the simple binary one is about two thresholds. -/
theorem ne_none_of_fits {d w : Option Threshold} {c : Case} (h : Fits d w c)
    (hc : c ≠ .simpleBinary) : d ≠ none ∧ w ≠ none := by
  refine ⟨?_, mt h.eq_simpleBinary_iff.mpr hc⟩
  rintro rfl
  exact Case.not_fits_none h

/-- **The order of the cases matters between two groups only.** The two
cases on ratios exclude each other, and so do all others. So every order
that tries the cases on ratios first finds the same case for two texts.

If a case fits, the one that is found does, and there is no warning. If
none does, it is the simple binary case without a worst case, and there is
one warning. Any other case is about two thresholds, and in the simple
binary case there is no worst one. -/
theorem classify_in_any_order (desired worst : Option Text) :
    let d := parse? (Text.entered desired)
    let w := parse? (Text.entered worst)
    let found := classify desired worst
    let warnings := Log.atLeast .warning (classifyRemarks desired worst)
    ¬(Fits d w .ratioWithMinimum ∧ Fits d w .inverseRatioWithMaximum) ∧
    (∀ c c', c.isOnRatios = false → c'.isOnRatios = false →
      Fits d w c → Fits d w c' → c = c') ∧
    (∀ order, IsSafe order → classifyBy order d w = found) ∧
    ((∃ c, Fits d w c) → Fits d w found.case ∧ found.desired = d ∧ found.worst = w ∧
      warnings = []) ∧
    ((∀ c, ¬Fits d w c) → found = ⟨.simpleBinary, d, none⟩ ∧
      warnings = [fallbackWarning desired worst]) ∧
    (found.case ≠ .simpleBinary → d ≠ none ∧ w ≠ none) ∧
    (found.case = .simpleBinary → found.worst = none) := by
  intro d w found warnings
  have hwarnings : warnings = _ := atLeast_warning_classifyRemarks desired worst
  refine ⟨Case.not_fits_both_ratios, fun c c' hc hc' h h' => h.unique_of_not_onRatios h' hc hc',
    fun order h => classifyBy_eq_classifyPair h d w, ?_⟩
  have hfound : found = classifyPair d w := rfl
  rw [classifyPair] at hfound
  cases hcase : Case.ofPair? d w with
  | some c =>
    have hfits := fits_of_ofPair? hcase
    rw [hcase] at hfound hwarnings
    rw [hfound]
    refine ⟨fun _ => ⟨hfits, rfl, rfl, hwarnings⟩, fun hnone => absurd hfits (hnone c),
      ne_none_of_fits hfits, hfits.eq_simpleBinary_iff.mp⟩
  | none =>
    have hnone := ofPair?_eq_none_iff.mp hcase
    rw [hcase] at hfound hwarnings
    rw [hfound]
    exact ⟨fun ⟨c, hc⟩ => absurd hc (hnone c), fun _ => ⟨rfl, hwarnings⟩,
      fun hne => absurd rfl hne, fun _ => rfl⟩

/-- The other way round within each group, and the simple binary case
last. -/
def reversed : List Case :=
  [.inverseRatioWithMaximum, .ratioWithMinimum, .numericWithMinimum, .numericWithMaximum,
   .percentageWithMaximum, .zeroWithMaximum, .time, .simpleBinary]

/-- None a minute against ten or more fits two cases, one of them on
ratios, and that is the one found in the reversed order too. Five hours
against less than two fit none. -/
theorem classify_in_any_order_reversed :
    (let d := parse? "0/1min"
     let w := parse? ">=10/1min"
     let found := classify (some "0/1min") (some ">=10/1min")
     (Fits d w .inverseRatioWithMaximum ∧ Fits d w .time) ∧
      (∀ c, c.isOnRatios = false → Fits d w c → c = .time) ∧
      IsSafe reversed ∧ classifyBy reversed d w = found ∧ Fits d w found.case ∧
      found.case ≠ .simpleBinary ∧ d ≠ none ∧ w ≠ none) ∧
    (let d := parse? "5 h"
     let w := parse? "<2 h"
     let found := classify (some "5 h") (some "<2 h")
     (∀ c, ¬Fits d w c) ∧ found = ⟨.simpleBinary, d, none⟩ ∧ found.worst = none) := by
  constructor
  · intro d w found
    have hratio : Fits d w .inverseRatioWithMaximum := by decide +kernel
    have htime : Fits d w .time := by decide +kernel
    have hcase : found.case ≠ .simpleBinary := by decide +kernel
    have hsafe : IsSafe reversed := ⟨fun c => by cases c <;> decide, by decide⟩
    obtain ⟨-, hunique, horder, hfound, -, hboth, -⟩ :=
      classify_in_any_order (some "0/1min") (some ">=10/1min")
    exact ⟨⟨hratio, htime⟩, fun c hc h => hunique c .time hc rfl h htime, hsafe,
      horder reversed hsafe, (hfound ⟨_, hratio⟩).1, hcase, hboth hcase⟩
  · intro d w found
    have hnone : ∀ c, ¬Fits d w c := fun c => by cases c <;> decide +kernel
    have hcase : found.case = .simpleBinary := by decide +kernel
    obtain ⟨-, -, -, -, hfallback, -, hworst⟩ := classify_in_any_order (some "5 h") (some "<2 h")
    exact ⟨hnone, (hfallback hnone).1, hworst hcase⟩

end MetricAudit.Threshold
