/-
MetricAudit.Proofs.Metric.Fixed — what the thresholds fix, and the guard
against division by zero.

A variable is fixed by a direct division of the formula, whose right side
it is, and by a ratio among the thresholds, whose denominator it gets
(`mem_infer_iff`, `exists_ratio?_of_value?`). The first makes it a
denominator of the formula, the second makes its value a finite number.
So the guard has one question left, whether that denominator is zero
(`check?_value_of_mem_infer`). A ratio over zero is read like any other,
and what is to be made of it is left to the evaluation.
-/
import MetricAudit.Metric.Fixed
import MetricAudit.Proofs.Metric.Divisor
import MetricAudit.Proofs.Threshold.RoundTrip

namespace MetricAudit

open Text (strip)

namespace FixedVariable

/-! ## The value -/

theorem ratio?_eq_some_iff {t : Option Threshold} {n d : Binary64} :
    ratio? t = some (n, d) ↔ ∃ operator unit, t = some ⟨operator, .ratio n d, unit⟩ := by
  unfold ratio?
  split
  · simp
  · rename_i hnone
    refine iff_of_false (by simp) ?_
    rintro ⟨operator, unit, rfl⟩
    exact hnone operator n d unit rfl

/-- The denominator of a ratio that is read is finite and has no sign. -/
theorem denominator_of_ratio? {entry : Text} {n d : Binary64}
    (h : ratio? (Threshold.parse? entry) = some (n, d)) :
    d.isFinite = true ∧ d.isNegative = false := by
  obtain ⟨operator, unit, hparse⟩ := ratio?_eq_some_iff.mp h
  obtain ⟨-, hbody, -⟩ := Threshold.threshold?_eq_some_iff.mp hparse
  exact (Magnitude.isReadable_of_parse? hbody).2

/-- The value is the denominator of the desired ratio, and of the worst
case where that is the only ratio. -/
theorem exists_ratio?_of_value? {desired worst : Text} {x : Binary64} {reason : FixedReason}
    (h : value? desired worst = some (x, reason)) :
    ∃ n, (ratio? (Threshold.parse? desired)).or (ratio? (Threshold.parse? worst)) =
      some (n, x) := by
  unfold value? at h
  cases hd : ratio? (Threshold.parse? desired) with
  | some sides =>
    obtain ⟨n, m⟩ := sides
    have hx : x = m := by
      cases hw : ratio? (Threshold.parse? worst) <;> simp only [hd, hw] at h <;>
        grind
    exact ⟨n, by rw [hx]; rfl⟩
  | none =>
    cases hw : ratio? (Threshold.parse? worst) with
    | some sides =>
      obtain ⟨n, m⟩ := sides
      have hx : x = m := by
        simp only [hd, hw] at h
        grind
      exact ⟨n, by rw [hx]; rfl⟩
    | none => simp [hd, hw] at h

theorem denominator_of_value? {desired worst : Text} {x : Binary64} {reason : FixedReason}
    (h : value? desired worst = some (x, reason)) :
    x.isFinite = true ∧ x.isNegative = false := by
  obtain ⟨n, hn⟩ := exists_ratio?_of_value? h
  rcases Option.or_eq_some_iff.mp hn with hdesired | ⟨-, hworst⟩
  · exact denominator_of_ratio? hdesired
  · exact denominator_of_ratio? hworst

/-! ## The variable -/

/-- A variable is fixed exactly if the thresholds fix its value and it is
the right side of the direct division. -/
theorem mem_infer_iff {formula : Text} {desired worst : Option Text} {v : FixedVariable} :
    v ∈ infer formula desired worst ↔
      value? (strip (Text.entered desired)) (strip (Text.entered worst)) =
        some (v.value, v.reason) ∧
      ∃ x, Formula.directDivision? formula = some (x, v.symbol) := by
  rw [infer, Option.mem_toList, infer?]
  split
  · rename_i hblank
    have hnone : Formula.directDivision? formula = none := by
      rw [← Formula.directDivision?_strip, List.isEmpty_iff.mp hblank,
        Formula.directDivision?_eq, Formula.outline_nil]
      rfl
    simp [hnone]
  · simp only [Option.bind_eq_bind, Option.bind_eq_some_iff]
    constructor
    · rintro ⟨⟨x, reason⟩, hvalue, ⟨l, r⟩, hdivision, hv⟩
      cases hv
      exact ⟨hvalue, l, hdivision⟩
    · rintro ⟨hvalue, l, hdivision⟩
      exact ⟨_, hvalue, _, hdivision, rfl⟩

theorem symbol_mem_denominators {formula : Text} {desired worst : Option Text}
    {v : FixedVariable} (h : v ∈ infer formula desired worst) :
    v.symbol ∈ Formula.denominators formula := by
  obtain ⟨x, hx⟩ := (mem_infer_iff.mp h).2
  exact Formula.right_mem_denominators hx

theorem isFinite_of_mem_infer {formula : Text} {desired worst : Option Text}
    {v : FixedVariable} (h : v ∈ infer formula desired worst) : v.value.isFinite = true :=
  (denominator_of_value? (mem_infer_iff.mp h).1).1

/-- **What is fixed passes the guard unless the ratio is one over zero.**
The value is the denominator of the desired ratio, or of the worst case
where that is the only ratio. Where it is not zero the guard has nothing
against it; where it is, the guard refuses it, for the formula divides by
the variable. -/
theorem check?_value_of_mem_infer {formula : Text} {desired worst : Option Text}
    {v : FixedVariable} (h : v ∈ infer formula desired worst) (shows : Data → Bool) :
    (∃ n, (ratio? (Threshold.parse? (Text.entered desired))).or
        (ratio? (Threshold.parse? (Text.entered worst))) = some (n, v.value)) ∧
    (v.value.isZero = false →
      Divisor.check? shows (.real v.value) v.symbol formula = some .fine) ∧
    (v.value.isZero = true →
      Divisor.check? shows (.real v.value) v.symbol formula =
        some (.fail ("0 cannot be used for " ++ v.symbol
          ++ ": it is the denominator of a division"))) := by
  have hdivides : Formula.isDenominator formula v.symbol = true :=
    Formula.isDenominator_iff_mem.mpr (symbol_mem_denominators h)
  have hratio := exists_ratio?_of_value? (mem_infer_iff.mp h).1
  rw [Threshold.parse?_strip, Threshold.parse?_strip] at hratio
  rw [Divisor.check?_real (isFinite_of_mem_infer h), hdivides, Bool.and_true]
  exact ⟨hratio, fun hzero => by rw [hzero]; rfl, fun hzero => by rw [hzero]; rfl⟩

/-- Ten calls in three minutes fix the minutes to three, which the guard
lets pass. -/
theorem check?_value_of_mem_infer_three :
    ∃ v ∈ infer "A / B" (some ">= 10/3 min") none, v.symbol = "B" ∧ v.value.isZero = false ∧
      Divisor.check? (fun _ => true) (.real v.value) v.symbol "A / B" = some .fine := by
  have hfixed : (infer "A / B" (some ">= 10/3 min") none).map
      (fun v => (v.symbol, v.value.isZero)) = [(("B" : Text), false)] := by decide +kernel
  obtain ⟨v, hv, hparts⟩ := List.map_eq_singleton_iff.mp hfixed
  obtain ⟨hsymbol, hzero⟩ := Prod.mk.inj hparts
  have hmem : v ∈ infer "A / B" (some ">= 10/3 min") none := hv ▸ List.mem_singleton_self v
  exact ⟨v, hmem, hsymbol, hzero, (check?_value_of_mem_infer hmem _).2.1 hzero⟩

/-- One call in no minutes fixes the minutes to zero, which the guard
refuses. -/
theorem not_forall_check?_value_valid :
    ¬∃ shows, ∀ (formula : Text) (desired worst : Option Text),
      ∀ v ∈ infer formula desired worst,
        ∃ verdict, Divisor.check? shows (.real v.value) v.symbol formula = some verdict ∧
          verdict.valid = true := by
  rintro ⟨shows, h⟩
  have hfixed : (infer "A/B" (some "1/0min") none).map (fun v =>
      (v.value.isFinite, v.value.isZero && Formula.isDenominator "A/B" v.symbol)) =
        [(true, true)] := by decide +kernel
  obtain ⟨v, hv, hparts⟩ := List.map_eq_singleton_iff.mp hfixed
  obtain ⟨hfinite, hzero⟩ := Prod.mk.inj hparts
  have hmem : v ∈ infer "A/B" (some "1/0min") none := hv ▸ List.mem_singleton_self v
  obtain ⟨verdict, hcheck, hvalid⟩ := h "A/B" (some "1/0min") none v hmem
  rw [Divisor.check?_real hfinite, if_pos hzero] at hcheck
  obtain rfl := Option.some.inj hcheck
  cases hvalid

end FixedVariable
end MetricAudit
