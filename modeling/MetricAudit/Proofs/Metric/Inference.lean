/-
MetricAudit.Proofs.Metric.Inference — when a variable is fixed, and to
what.

The inference goes through its rules in order and stops at the first that
applies. Said without an order (`Fixes`), two thresholds fix a value if
one of them is a ratio and one of them, perhaps the other, is stated in
minutes; or if both are ratios over one denominator and the desired one
is zero. Where more than one rule applies they fix the same value, the
denominator of the desired ratio, so the order decides the stated reason
only.

`infer_characterized` is the main theorem. That the variable is a
denominator of the formula needs no look at the thresholds, and that the
value is a finite number of no sign needs none at the formula.
-/
import MetricAudit.Proofs.Metric.Fixed

namespace MetricAudit.FixedVariable

open Text (strip)

/-- A threshold text is read as a ratio. -/
def IsRatio (entry : Option Text) (n d : Binary64) : Prop :=
  ∃ operator unit, Threshold.parse? (Text.entered entry) = some ⟨operator, .ratio n d, unit⟩

/-- A threshold text is read, and stated in minutes. -/
def IsTimed (entry : Option Text) : Prop :=
  ∃ t, Threshold.parse? (Text.entered entry) = some t ∧ t.unit = some .minutes

/-- The thresholds fix a value. -/
def Fixes (desired worst : Option Text) : Prop :=
  (((∃ n d, IsRatio desired n d) ∨ ∃ n d, IsRatio worst n d) ∧
      (IsTimed desired ∨ IsTimed worst)) ∨
    ∃ n d n' d', IsRatio desired n d ∧ IsRatio worst n' d' ∧
      n.isZero = true ∧ d.equals d' = true

/-! ## The rules -/

theorem isRatio_iff {entry : Option Text} {n d : Binary64} :
    IsRatio entry n d ↔ ratio? (Threshold.parse? (Text.entered entry)) = some (n, d) :=
  ratio?_eq_some_iff.symm

theorem isTimed_iff {entry : Option Text} :
    IsTimed entry ↔ inMinutes (Threshold.parse? (Text.entered entry)) = true := by
  unfold IsTimed inMinutes
  cases Threshold.parse? (Text.entered entry) <;> simp

/-- Some rule applies exactly where the thresholds fix a value. -/
theorem exists_value?_iff {desired worst : Option Text} :
    (∃ p, value? (strip (Text.entered desired)) (strip (Text.entered worst)) = some p) ↔
      Fixes desired worst := by
  simp only [Fixes, isRatio_iff, isTimed_iff, value?, Threshold.parse?_strip, ← Bool.or_eq_true]
  -- the rules ask no more than whether one of the two is stated in minutes
  generalize (inMinutes (Threshold.parse? (Text.entered desired)) ||
    inMinutes (Threshold.parse? (Text.entered worst))) = timed
  rcases ratio? (Threshold.parse? (Text.entered desired)) with _ | ⟨n, d⟩ <;>
    rcases ratio? (Threshold.parse? (Text.entered worst)) with _ | ⟨n', d'⟩
  · simp
  · cases timed <;> simp
  · cases timed <;> simp
  · cases timed with
    | true => simp
    | false =>
      cases hzero : n.isZero <;> cases hequal : d.equals d' <;> simp [hzero, hequal]

/-- The value is the denominator of the desired ratio where there is one,
and of the worst case otherwise. -/
theorem value_of_mem_infer {formula : Text} {desired worst : Option Text} {v : FixedVariable}
    (h : v ∈ infer formula desired worst) :
    (∀ n d, IsRatio desired n d → v.value = d) ∧
      ((¬∃ n d, IsRatio desired n d) → ∃ n, IsRatio worst n v.value) := by
  simp only [isRatio_iff]
  obtain ⟨n, hn⟩ := exists_ratio?_of_value? (mem_infer_iff.mp h).1
  rw [Threshold.parse?_strip, Threshold.parse?_strip] at hn
  rcases Option.or_eq_some_iff.mp hn with hdesired | ⟨hnone, hworst⟩
  · refine ⟨fun n' d hd => ?_, fun hnot => absurd ⟨n, _, hdesired⟩ hnot⟩
    rw [hdesired] at hd
    exact (Prod.mk.inj (Option.some.inj hd)).2
  · refine ⟨fun n' d hd => ?_, fun _ => ⟨n, hworst⟩⟩
    rw [hnone] at hd
    cases hd

theorem length_infer_le (formula : Text) (desired worst : Option Text) :
    (infer formula desired worst).length ≤ 1 := by
  unfold infer
  cases infer? formula desired worst <;> simp

/-- Something is fixed where the formula has a direct division and the
thresholds fix a value. -/
theorem infer_ne_nil_iff {formula : Text} {desired worst : Option Text} :
    infer formula desired worst ≠ [] ↔
      (∃ x y, Formula.directDivision? formula = some (x, y)) ∧ Fixes desired worst := by
  rw [← exists_value?_iff, ← List.isEmpty_eq_false_iff, List.isEmpty_eq_false_iff_exists_mem]
  constructor
  · rintro ⟨v, hv⟩
    obtain ⟨hvalue, x, hx⟩ := mem_infer_iff.mp hv
    exact ⟨⟨x, v.symbol, hx⟩, _, hvalue⟩
  · rintro ⟨⟨x, y, hxy⟩, ⟨value, reason⟩, hvalue⟩
    exact ⟨⟨y, value, reason⟩, mem_infer_iff.mpr ⟨hvalue, x, hxy⟩⟩

/-- **What the thresholds fix.** At most one variable is fixed, and one is
exactly if the formula has a direct division and the thresholds fix a
value. It is the right side of the first direct division, a variable and
a denominator of the formula; its value is the denominator of the desired
ratio where there is one and of the worst case otherwise, and is finite
and not negative. -/
theorem infer_characterized (formula : Text) (desired worst : Option Text) :
    (infer formula desired worst).length ≤ 1 ∧
    (infer formula desired worst ≠ [] ↔
      (∃ x y, Formula.directDivision? formula = some (x, y)) ∧ Fixes desired worst) ∧
    ∀ v ∈ infer formula desired worst,
      (∃ x, Formula.directDivision? formula = some (x, v.symbol)) ∧
      v.symbol ∈ Formula.symbols formula ∧ v.symbol ∈ Formula.denominators formula ∧
      (∀ n d, IsRatio desired n d → v.value = d) ∧
      ((¬∃ n d, IsRatio desired n d) → ∃ n, IsRatio worst n v.value) ∧
      v.value.isFinite = true ∧ v.value.isNegative = false := by
  refine ⟨length_infer_le formula desired worst, infer_ne_nil_iff, fun v hv => ?_⟩
  obtain ⟨hvalue, hdivision⟩ := mem_infer_iff.mp hv
  have hdivides := symbol_mem_denominators hv
  have hsymbol := Formula.divisors_subset formula (Formula.mem_denominators_iff.mp hdivides)
  obtain ⟨hdesired, hworst⟩ := value_of_mem_infer hv
  exact ⟨hdivision, hsymbol, hdivides, hdesired, hworst, denominator_of_value? hvalue⟩

/-- A desired ratio without a unit fixes a value if the worst case is
stated in minutes: that of the second variable, since a group is no side
of a direct division. -/
theorem infer_characterized_apart :
    Fixes (some "2/5") (some "20 min") ∧
      ∃ v ∈ infer "(A+B)/C - A / B" (some "2/5") (some "20 min"), v.symbol = "B" ∧
        v.symbol ∈ Formula.denominators "(A+B)/C - A / B" ∧ v.value.isFinite = true := by
  obtain ⟨-, hsome, hfixed⟩ := infer_characterized "(A+B)/C - A / B" (some "2/5") (some "20 min")
  have hne : infer "(A+B)/C - A / B" (some "2/5") (some "20 min") ≠ [] := by decide +kernel
  have hfirst : Formula.directDivision? "(A+B)/C - A / B" =
      some (("A" : Text), ("B" : Text)) := by decide +kernel
  obtain ⟨v, hv⟩ := List.exists_mem_of_ne_nil _ hne
  obtain ⟨⟨x, hx⟩, -, hdivides, -, -, hfinite, -⟩ := hfixed v hv
  rw [hfirst] at hx
  have hsymbol : v.symbol = "B" := (Prod.mk.inj (Option.some.inj hx)).2.symm
  exact ⟨(hsome.mp hne).2, v, hv, hsymbol, hdivides, hfinite⟩

end MetricAudit.FixedVariable
