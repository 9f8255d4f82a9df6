/-
MetricAudit.Proofs.Metric.Note — the notes on fixed variables.

A report has one note for each fixed variable, in their order. The number
in the note has at most six significant digits, and no other such number
is nearer to the value (`isRounded_sixDigits`). It is read back as the
value exactly if the value has so few digits (`parse?_sixDigits_iff`),
which the denominator of a threshold need not have: it may have any
number of them.

A detail of the shown report and a flag of a listed variable state the
same value by `Binary64.plain`, which is always read back
(`parse?_plain`).
-/
import MetricAudit.Metric.Report
import MetricAudit.Proofs.Metric.Fixed
import MetricAudit.Proofs.Number.Significant
import MetricAudit.Proofs.Threshold.Magnitude

namespace MetricAudit

/-! ## Numbers in six digits -/

namespace Spelling

/-- A number in six digits is a spelling of the rounded decimal. -/
theorem exists_spelling_sixDigits {x : Binary64} (hx : x.isFinite = true) :
    ∃ p : Spelling, x.sixDigits = Binary64.signed x.isNegative p.text ∧
      p.decimal.value = ((Decimal.exact x).rounded 6).value := by
  obtain ⟨p, htext, hvalue, -⟩ := exists_spelling_write .sixDigits ((Decimal.exact x).rounded 6)
  refine ⟨p, ?_, hvalue⟩
  obtain ⟨s, m, k, hc, rfl⟩ := Binary64.exists_eq_finite hx
  rw [htext]
  rfl

/-- A spelling is read as the double that is nearest to what it spells. -/
theorem parse?_signed_text_iff {negative : Bool} {p : Spelling} {x : Binary64} :
    Magnitude.parse? (Binary64.signed negative p.text) = some (.scalar x) ↔
      Binary64.IsNearest negative p.decimal.value x := by
  have hread := p.signed?_text negative
  rw [Magnitude.parse?_eq_scalar_iff]
  constructor
  · rintro ⟨n, hwrites, hnear⟩
    rw [Numeral.signed?_eq_some_iff.mpr hwrites] at hread
    obtain rfl := Option.some.inj hread
    exact hnear
  · exact fun hnear => ⟨_, Numeral.signed?_eq_some_iff.mp hread, hnear⟩

end Spelling

namespace Magnitude

/-- A number in six digits is read back exactly if some decimal of at
most six digits is rounded to it. -/
theorem parse?_sixDigits_iff {x : Binary64} (hx : x.isFinite = true) :
    parse? x.sixDigits = some (.scalar x) ↔ x.HasDigits 6 := by
  obtain ⟨p, htext, hvalue⟩ := Spelling.exists_spelling_sixDigits hx
  rw [htext, Spelling.parse?_signed_text_iff, hvalue]
  exact Binary64.isNearest_rounded_iff (by decide) (by decide)

/-- In plain digits it always is. -/
theorem parse?_plain {x : Binary64} (hx : x.isFinite = true) (hsign : x.isNegative = false) :
    parse? x.plain = some (.scalar x) := by
  obtain ⟨p, htext, hvalue, -⟩ := Binary64.exists_spelling_of_nonneg hx hsign
  have hread : Numeral.signed? x.plain = some (p.numeral false) := htext ▸ p.signed?_text false
  rw [parse?_of_signed? hread (by rw [hvalue, hx]), hvalue]

end Magnitude

/-! ## Notes -/

namespace Metric

/-- A note on a variable that states its value as `number`. -/
def noteOf (v : FixedVariable) (number : Text) : Text :=
  v.symbol ++ " is fixed to " ++ number ++ " (" ++ v.reason.text ++ ")"

theorem noteOf_inj {v : FixedVariable} {number number' : Text} :
    noteOf v number = noteOf v number' ↔ number = number' := by
  simp [noteOf]

theorem notes_eq (s : Settings) (m : Metric) :
    (check s m).notes = (check s m).fixed.map note := by
  unfold check
  split <;> rfl

/-- A fixed value is finite and has no sign. -/
theorem isFinite_of_mem_fixed_check {s : Settings} {m : Metric} {v : FixedVariable}
    (h : v ∈ (check s m).fixed) : v.value.isFinite = true ∧ v.value.isNegative = false := by
  unfold check at h
  split at h
  · exact FixedVariable.denominator_of_value? (FixedVariable.mem_infer_iff.mp h).1
  · cases h

/-- **Each note states its fixed value in six digits.** The notes of a
report are those on its fixed variables, one by one. The number of a note
is nearest to the value among the numbers of at most six significant
digits, and it is read back as the value exactly if one of these is
rounded to the value. In plain digits the value is read back in any
case. -/
theorem notes_state_fixed (s : Settings) (m : Metric) :
    List.Forall₂
      (fun v note => ∃ number n, note = noteOf v number ∧
        Numeral.Writes n number ∧ n.negative = false ∧ v.value.IsRounded 6 n.decimal.value ∧
        (Magnitude.parse? number = some (.scalar v.value) ↔ v.value.HasDigits 6) ∧
        Magnitude.parse? v.value.plain = some (.scalar v.value))
      (check s m).fixed (check s m).notes := by
  rw [notes_eq, List.forall₂_map_right_iff, List.forall₂_same]
  intro v hv
  obtain ⟨hfinite, hsign⟩ := isFinite_of_mem_fixed_check hv
  obtain ⟨p, htext, hvalue⟩ := Spelling.exists_spelling_sixDigits hfinite
  have hread := Numeral.signed?_eq_some_iff.mp (p.signed?_text v.value.isNegative)
  refine ⟨v.value.sixDigits, p.numeral v.value.isNegative, rfl, htext ▸ hread, hsign, ?_,
    Magnitude.parse?_sixDigits_iff hfinite, Magnitude.parse?_plain hfinite hsign⟩
  have hrounded := Binary64.isRounded_rounded v.value (n := 6) (by decide)
  rwa [← hvalue] at hrounded

/-- Per 1234567 minutes, the note says 1.23457e+06. -/
theorem not_forall_note_reads_back :
    ¬∀ (s : Settings) (m : Metric), List.Forall₂
      (fun v note => ∃ number, note = noteOf v number ∧
        Magnitude.parse? number = some (.scalar v.value))
      (check s m).fixed (check s m).notes := by
  intro h
  let m : Metric := { name := "Call rate", formula := "A/B", desired := some "10/1234567min" }
  have hfixed : (check {} m).fixed.map (fun v =>
      (v.value.sixDigits, Magnitude.parse? v.value.sixDigits == some (.scalar v.value))) =
        [(("1.23457e+06" : Text), false)] := by
    decide +kernel
  have hnotes := h {} m
  rw [notes_eq, List.forall₂_map_right_iff, List.forall₂_same] at hnotes
  obtain ⟨v, hv, hparts⟩ := List.map_eq_singleton_iff.mp hfixed
  obtain ⟨number, hnote, hread⟩ := hnotes v (hv ▸ List.mem_singleton_self v)
  obtain rfl := noteOf_inj.mp hnote
  rw [hread] at hparts
  simp at hparts

end Metric
end MetricAudit
