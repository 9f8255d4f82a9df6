/-
MetricAudit.Proofs.Metric.Case — when a report has a threshold case.

A report has a case where the formula and both thresholds are accepted
and a desired threshold is entered (`case_check_eq_some_iff`). What is
entered and accepted is blank or read as a threshold, so the case names
the desired threshold that was read (`exists_case_iff`).

An entry of nothing but blanks stands apart: every check takes it for
none, yet it counts as entered. It makes a simple binary case in which
no threshold is desired.
-/
import MetricAudit.Proofs.Metric.Results
import MetricAudit.Proofs.Threshold.Check

namespace MetricAudit

open Text (strip)

/-- The text is there and holds blanks only. -/
def Text.OnlyBlanks (t : Text) : Prop := t ≠ [] ∧ strip t = []

instance (t : Text) : Decidable t.OnlyBlanks := inferInstanceAs (Decidable (_ ∧ _))

namespace Threshold

/-- A pair keeps its desired threshold, whatever its case. -/
theorem desired_classifyPair (d w : Option Threshold) : (classifyPair d w).desired = d := by
  unfold classifyPair
  split <;> rfl

/-- Without a desired threshold there is only the simple binary case. -/
theorem classify_of_strip_eq_nil {desired : Option Text} (worst : Option Text)
    (h : strip (Text.entered desired) = []) :
    classify desired worst = ⟨.simpleBinary, none, none⟩ := by
  rw [classify, parse?_of_strip_eq_nil h]
  rfl

end Threshold

namespace Metric

/-- The case of a report is that of its threshold texts, if the formats
pass and a desired text is entered. -/
theorem case_check_eq_some_iff {s : Settings} {m : Metric} {c : Threshold.Classified} :
    (check s m).case = some c ↔
      m.Accepted s ∧ Text.entered m.desired ≠ [] ∧
        Threshold.classify m.desired m.worst = c := by
  rw [← passesFormats_iff, check]
  by_cases hpass : m.passesFormats s = true
  · by_cases hentered : Text.entered m.desired = []
    · simp [hpass, case?, hentered]
    · simp [hpass, case?, hentered]
  · simp [hpass]

/-- An accepted entry that is not blank is read. -/
theorem parse?_ne_none_of_accepted {s : Settings} {m : Metric} (h : m.Accepted s)
    (hne : strip (Text.entered m.desired) ≠ []) :
    Threshold.parse? (Text.entered m.desired) ≠ none :=
  ((Threshold.valid_check_iff _ _).mp h.2.1).resolve_left hne

/-- **When a report has a case.** Unless nothing but blanks is desired, a
report has a case exactly if the formula and both thresholds are accepted
and the desired one is not blank; the case is then about the desired
threshold that is read. A desired entry of blanks makes a simple binary
case about no threshold at all. -/
theorem exists_case_iff (s : Settings) (m : Metric) :
    let desired := Text.entered m.desired
    (¬desired.OnlyBlanks →
      ((∃ c, (check s m).case = some c) ↔ m.Accepted s ∧ strip desired ≠ []) ∧
      ∀ c, (check s m).case = some c →
        c.desired = Threshold.parse? desired ∧ c.desired ≠ none) ∧
    (desired.OnlyBlanks → ∀ c, (check s m).case = some c ↔
      m.Accepted s ∧ c = ⟨.simpleBinary, none, none⟩) := by
  intro desired
  refine ⟨fun hnot => ⟨⟨?_, ?_⟩, ?_⟩, fun hblanks c => ?_⟩
  · rintro ⟨c, hc⟩
    obtain ⟨haccepted, hentered, -⟩ := case_check_eq_some_iff.mp hc
    exact ⟨haccepted, fun hblank => hnot ⟨hentered, hblank⟩⟩
  · rintro ⟨haccepted, hne⟩
    have hentered : desired ≠ [] := Text.ne_nil_of_strip_ne_nil hne
    exact ⟨_, case_check_eq_some_iff.mpr ⟨haccepted, hentered, rfl⟩⟩
  · intro c hc
    obtain ⟨haccepted, hentered, rfl⟩ := case_check_eq_some_iff.mp hc
    have hread : Threshold.parse? desired ≠ none :=
      parse?_ne_none_of_accepted haccepted fun hblank => hnot ⟨hentered, hblank⟩
    rw [Threshold.classify, Threshold.desired_classifyPair]
    exact ⟨rfl, hread⟩
  · rw [case_check_eq_some_iff, Threshold.classify_of_strip_eq_nil _ hblanks.2, eq_comm]
    exact and_congr_right fun _ => and_iff_right hblanks.1

/-- The rate of calls by the minute, with a text typed as what is desired. -/
def rateTowards (desired : Text) : Metric where
  name := "Call rate"
  formula := "A/B"
  desired := some desired
  declared := [⟨"A", "answered calls"⟩, ⟨"B", "minutes"⟩]

/-- A ratio with blanks around it makes a case that is about a threshold,
and a single blank makes one that is about none. -/
theorem exists_case_iff_ratio :
    (¬Text.OnlyBlanks " 10/3 min " ∧ (rateTowards " 10/3 min ").Accepted {} ∧
      ∃ c, (check {} (rateTowards " 10/3 min ")).case = some c ∧ c.desired ≠ none) ∧
    (Text.OnlyBlanks " " ∧ (rateTowards " ").Accepted {} ∧
      (check {} (rateTowards " ")).case = some ⟨.simpleBinary, none, none⟩) := by
  have hratio : (rateTowards " 10/3 min ").Accepted {} := by
    refine ⟨?_, ?_, ?_⟩ <;> decide +kernel
  have hblank : (rateTowards " ").Accepted {} := by
    refine ⟨?_, ?_, ?_⟩ <;> decide +kernel
  have hnot : ¬Text.OnlyBlanks " 10/3 min " := by decide
  have hblanks : Text.OnlyBlanks " " := by decide
  obtain ⟨hpresent, hread⟩ := (exists_case_iff {} (rateTowards " 10/3 min ")).1 hnot
  obtain ⟨c, hc⟩ := hpresent.mpr ⟨hratio, by decide⟩
  have hnone := (exists_case_iff {} (rateTowards " ")).2 hblanks ⟨.simpleBinary, none, none⟩
  exact ⟨⟨hnot, hratio, c, hc, (hread c hc).2⟩, hblanks, hblank, hnone.mpr ⟨hblank, rfl⟩⟩

/-- It is not so that a report has a case only where the desired threshold
is not blank: with a single blank typed into its field it has one. -/
theorem not_forall_case_iff :
    ¬∀ (s : Settings) (m : Metric),
      ((∃ c, (check s m).case = some c) ↔
        m.Accepted s ∧ strip (Text.entered m.desired) ≠ []) ∧
      ∀ c, (check s m).case = some c →
        c.desired = Threshold.parse? (Text.entered m.desired) ∧ c.desired ≠ none := by
  intro h
  have hcase : ∃ c, (check {} (rateTowards " ")).case = some c :=
    Option.isSome_iff_exists.mp (by decide +kernel)
  have hne := ((h {} (rateTowards " ")).1.mp hcase).2
  exact hne (by decide)

end Metric
end MetricAudit
