/-
MetricAudit.Proofs.Threshold.Zero — what the cases that speak of zero say.

Three cases are for a threshold of zero: a desired zero against a maximum,
of seconds or of per cent, and a worst case of zero. They test the number
that a threshold amounts to, which for a ratio is the rounded quotient.
It is zero where the numerator is, and also where the quotient is at most
half the least positive double (`isZero_iff`). `case_speaks_of_zero` says
what follows for two texts: the threshold is zero, or it vanishes in the
division.

The sides of a ratio may have any number of digits, so that a numerator
other than zero can vanish (`vanishing`).
-/
import MetricAudit.Proofs.Number.Quotient
import MetricAudit.Proofs.Threshold.Case
import MetricAudit.Proofs.Threshold.RoundTrip

namespace MetricAudit

theorem Binary64.equals_zero (x : Binary64) : x.equals (.zero false) = x.isZero := by
  cases x with
  | nan => rfl
  | infinity s => rfl
  | finite s m k h =>
    change (m == 0 && k == 0 && (s == false || m == 0)) = (m == 0)
    rw [Bool.eq_iff_iff]
    simp only [Bool.and_eq_true, Bool.or_eq_true, beq_iff_eq]
    constructor
    · exact fun hequals => hequals.1.1
    · rintro rfl
      exact ⟨⟨rfl, h.2.1.resolve_left (by decide)⟩, Or.inr rfl⟩

namespace Magnitude

/-- Zero, or a ratio of zero to a number. -/
def IsZero : Magnitude → Prop
  | .scalar x => x.isZero = true
  | .ratio n _ => n.isZero = true

/-- A ratio of other numbers than zero whose quotient is rounded to zero,
as it is at most half the least positive double. -/
def Vanishes : Magnitude → Prop
  | .scalar _ => False
  | .ratio n d => n.isZero = false ∧ d.isZero = false ∧
      n.magnitude / d.magnitude ≤ Binary64.halfLeast

instance (m : Magnitude) : Decidable m.IsZero :=
  match m with
  | .scalar x => inferInstanceAs (Decidable (x.isZero = true))
  | .ratio n _ => inferInstanceAs (Decidable (n.isZero = true))

/-- A magnitude is zero, and stays so unless it is divided by zero, or it
vanishes: then its number is zero. -/
theorem isZero_value?_iff {m : Magnitude} (hm : m.IsFinite) :
    (∃ x, m.value? = some x ∧ x.isZero = true) ↔
      (m.IsZero ∧ m.value? ≠ none) ∨ m.Vanishes := by
  cases m with
  | scalar x => simp [value?, IsZero, Vanishes]
  | ratio n d =>
    obtain ⟨hn, hd⟩ := hm
    cases hzero : d.isZero with
    | true => simp [value?, Vanishes, hzero]
    | false =>
      have hquotient := Binary64.isZero_div_iff hn hd hzero
      have hnumerator : n.isZero = true → n.magnitude / d.magnitude ≤ Binary64.halfLeast := by
        intro h
        rw [(Binary64.isZero_iff_magnitude hn).mp h, zero_div, Binary64.halfLeast]
        positivity
      simp only [value?, IsZero, Vanishes, hzero, Bool.false_eq_true, if_false, Option.some.injEq,
        exists_eq_left', hquotient, ne_eq, reduceCtorEq, not_false_eq_true, and_true, true_and]
      constructor
      · intro h
        cases hn' : n.isZero with
        | true => exact Or.inl rfl
        | false => exact Or.inr ⟨rfl, h⟩
      · exact fun h => h.elim hnumerator And.right

end Magnitude

namespace Threshold

theorem isFinite_of_parse? {entry : Text} {t : Threshold} (h : parse? entry = some t) :
    t.magnitude.IsFinite := by
  obtain ⟨-, hbody, -⟩ := threshold?_eq_some_iff.mp h
  exact (Magnitude.isReadable_of_parse? hbody).isFinite

namespace Case

theorem isZero_iff {t : Threshold} (ht : t.magnitude.IsFinite) :
    isZero t = true ↔ (t.magnitude.IsZero ∧ t.value? ≠ none) ∨ t.magnitude.Vanishes := by
  rw [value?, ← Magnitude.isZero_value?_iff ht, isZero, amountsTo, value?]
  cases t.magnitude.value? <;> simp [Binary64.equals_zero]

/-- A threshold that is tested to be zero is zero, or it vanishes. -/
theorem isZero_or_vanishes {entry : Text} {t : Threshold} (h : parse? entry = some t)
    (hzero : isZero t = true) : t.magnitude.IsZero ∨ t.magnitude.Vanishes :=
  ((isZero_iff (isFinite_of_parse? h)).mp hzero).imp_left And.left

end Case

/-- The case of two texts, other than the simple binary one, fits the
thresholds that they are read as. -/
theorem fits_of_classify {desired worst : Option Text} {c : Case}
    (h : (classify desired worst).case = c) (hc : c ≠ .simpleBinary) :
    ∃ d w, parse? (Text.entered desired) = some d ∧ parse? (Text.entered worst) = some w ∧
      Case.Fits (some d) (some w) c := by
  rw [classify, classifyPair] at h
  split at h
  · rename_i c' hcase
    obtain rfl : c' = c := h
    have hfits := fits_of_ofPair? hcase
    obtain ⟨hd, hw⟩ := ne_none_of_fits hfits hc
    obtain ⟨d, hd⟩ := Option.ne_none_iff_exists'.mp hd
    obtain ⟨w, hw⟩ := Option.ne_none_iff_exists'.mp hw
    rw [hd, hw] at hfits
    exact ⟨d, w, hd, hw, hfits⟩
  · exact absurd h.symm hc

/-- **Where a case speaks of zero, the threshold is zero or vanishes.** A
maximum for a desired zero, of seconds or of per cent, goes with a desired
threshold that is zero, or a ratio of zero, or a ratio of other numbers
whose quotient is at most half the least positive double. A minimum of
zero goes with a worst case of these kinds. And all of them count as zero,
save ratios over zero. -/
theorem case_speaks_of_zero (desired worst : Option Text) :
    ((classify desired worst).case = .zeroWithMaximum ∨
        (classify desired worst).case = .percentageWithMaximum →
      ∃ d, parse? (Text.entered desired) = some d ∧
        (d.magnitude.IsZero ∨ d.magnitude.Vanishes)) ∧
    ((classify desired worst).case = .numericWithMinimum →
      ∃ w, parse? (Text.entered worst) = some w ∧
        (w.magnitude.IsZero ∨ w.magnitude.Vanishes)) ∧
    ∀ entry t, parse? entry = some t →
      (Case.isZero t = true ↔
        (t.magnitude.IsZero ∧ t.value? ≠ none) ∨ t.magnitude.Vanishes) := by
  refine ⟨?_, fun hcase => ?_, fun entry t ht => Case.isZero_iff (isFinite_of_parse? ht)⟩
  · rintro (hcase | hcase)
    · obtain ⟨d, w, hd, -, hfits⟩ := fits_of_classify hcase (by decide)
      cases hfits with
      | zeroWithMaximum hzero => exact ⟨d, hd, Case.isZero_or_vanishes hd hzero⟩
    · obtain ⟨d, w, hd, -, hfits⟩ := fits_of_classify hcase (by decide)
      cases hfits with
      | percentageWithMaximum hzero => exact ⟨d, hd, Case.isZero_or_vanishes hd hzero⟩
  · obtain ⟨d, w, -, hw, hfits⟩ := fits_of_classify hcase (by decide)
    cases hfits with
    | numericWithMinimum _ _ _ _ hzero => exact ⟨w, hw, Case.isZero_or_vanishes hw hzero⟩

/-- None in five seconds is a desired zero, and none in five a worst case
of zero. -/
theorem case_speaks_of_zero_fifths :
    ((classify (some "0/5seg") (some ">=15 seg")).case = .zeroWithMaximum ∧
      ∃ d, parse? "0/5seg" = some d ∧ (d.magnitude.IsZero ∨ d.magnitude.Vanishes) ∧
        Case.isZero d = true) ∧
    (classify (some "4") (some "0/5")).case = .numericWithMinimum ∧
      ∃ w, parse? "0/5" = some w ∧ (w.magnitude.IsZero ∨ w.magnitude.Vanishes) := by
  have hzero : (classify (some "0/5seg") (some ">=15 seg")).case = .zeroWithMaximum := by
    decide +kernel
  have hminimum : (classify (some "4") (some "0/5")).case = .numericWithMinimum := by
    decide +kernel
  have hread : (parse? "0/5seg").map (fun t => (decide t.magnitude.IsZero, t.value?.isSome)) =
      some (true, true) := by decide +kernel
  obtain ⟨hmaximum, -, htested⟩ := case_speaks_of_zero (some "0/5seg") (some ">=15 seg")
  obtain ⟨-, hworst, -⟩ := case_speaks_of_zero (some "4") (some "0/5")
  obtain ⟨d, hd, hspeaks⟩ := hmaximum (Or.inl hzero)
  rw [Text.entered, Option.getD_some] at hd
  rw [hd, Option.map_some, Option.some.injEq, Prod.mk.injEq] at hread
  have hvalue : d.value? ≠ none := Option.isSome_iff_ne_none.mp hread.2
  have htrue := (htested "0/5seg" d hd).mpr (Or.inl ⟨of_decide_eq_true hread.1, hvalue⟩)
  exact ⟨⟨hzero, d, hd, hspeaks, htrue⟩, hminimum, hworst hminimum⟩

/-- The least positive double, over two. -/
def vanishing : Text := "0." ++ List.replicate 323 '0' ++ "5/2"

/-- It is not so that only zeros and ratios of zero make a case that
speaks of zero: the least positive double in two seconds makes one. -/
theorem not_forall_isZero_of_case :
    ¬∀ desired worst : Option Text,
      ((classify desired worst).case = .zeroWithMaximum ∨
          (classify desired worst).case = .percentageWithMaximum →
        ∃ d, parse? (Text.entered desired) = some d ∧ d.magnitude.IsZero) ∧
      ((classify desired worst).case = .numericWithMinimum →
        ∃ w, parse? (Text.entered worst) = some w ∧ w.magnitude.IsZero) := by
  intro h
  have hcase : (classify (some (vanishing ++ "seg")) (some ">=15 seg")).case =
      .zeroWithMaximum := by decide +kernel
  have hread : (parse? (vanishing ++ "seg")).map (fun t => decide t.magnitude.IsZero) =
      some false := by decide +kernel
  obtain ⟨d, hd, hzero⟩ := (h (some (vanishing ++ "seg")) (some ">=15 seg")).1 (Or.inl hcase)
  rw [Text.entered, Option.getD_some] at hd
  rw [hd, Option.map_some, Option.some.injEq, decide_eq_false_iff_not] at hread
  exact hread hzero

end Threshold
end MetricAudit
