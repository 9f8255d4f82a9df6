/-
MetricAudit.Proofs.Threshold.Check — the check of a threshold field
against the reader of thresholds.

The check looks for a misspelt sign, then for an incomplete ratio, and
only then reads the text, after stripping it once more; the reader knows
nothing of these steps. `check_agrees_with_parse?` says that the two
agree: an entry is valid exactly when it is blank or read, the success
text is that of the threshold that is read, and an entry is refused with
the one kind of error that applies to it.

`ErrorKind.Applies` states when a kind applies, in terms of the text and
its scan; `ErrorKind.heading` is how the error texts of a kind begin, by
which a kind is told from the others whatever label and text are quoted
(`heading_append_inj`).
-/
import Mathlib.Logic.ExistsUnique
import MetricAudit.Proofs.Threshold.Reading
import MetricAudit.Threshold.Check

namespace MetricAudit

open Text (strip)

namespace Threshold

/-! ## Kinds of errors -/

/-- The kinds of errors in a threshold text. -/
inductive ErrorKind where
  | operator
  | ratioWithUnit
  | ratio
  | number

namespace ErrorKind

/-- How the error texts of a kind begin. -/
def heading : ErrorKind → Text
  | .operator => "Invalid operator \""
  | .ratioWithUnit => "Invalid format \""
  | .ratio => "Invalid ratio format \""
  | .number => "Invalid numeric value \""

/-- The error of a verdict is of this kind. -/
def IsReported (v : Verdict) (k : ErrorKind) : Prop :=
  ∃ rest, v.error = some (k.heading ++ rest)

/-- The text is not blank, starts with no misspelt sign, and nothing is
read from it. -/
def Unreadable (entry : Text) : Prop :=
  strip entry ≠ [] ∧ (∀ t : Typo, ¬t.sign <+: strip entry) ∧ parse? entry = none

/-- What a text with an error of this kind is like: it starts with a
misspelt sign; or else nothing is read from it, and its body has a slash
beside a unit, a slash and no unit, or no slash. -/
def Applies (entry : Text) : ErrorKind → Prop
  | .operator => ∃ t : Typo, t.sign <+: strip entry
  | .ratioWithUnit =>
    Unreadable entry ∧ '/' ∈ (scan entry).body ∧ (scan entry).unit ≠ none
  | .ratio => Unreadable entry ∧ '/' ∈ (scan entry).body ∧ (scan entry).unit = none
  | .number => Unreadable entry ∧ '/' ∉ (scan entry).body

/-- The letter in which the headings differ: the first after the word
that they share. -/
def initial : ErrorKind → Char
  | .operator => 'o'
  | .ratioWithUnit => 'f'
  | .ratio => 'r'
  | .number => 'n'

theorem getElem?_heading_append (k : ErrorKind) (rest : Text) :
    (k.heading ++ rest)[8]? = some k.initial := by
  cases k <;> rfl

/-- The beginning of an error text tells its kind. -/
theorem heading_append_inj {k k' : ErrorKind} {rest rest' : Text}
    (h : k.heading ++ rest = k'.heading ++ rest') : k = k' := by
  have hinitial := congrArg (fun s : Text => s[8]?) h
  simp only [getElem?_heading_append, Option.some.injEq] at hinitial
  cases k <;> cases k' <;> simp_all [initial]

end ErrorKind

/-- The kind of error that a finding is. -/
def Finding.kind? : Finding → Option ErrorKind
  | .blank => none
  | .misspelt _ => some .operator
  | .incompleteRatioWithUnit .. => some .ratioWithUnit
  | .incompleteRatio _ => some .ratio
  | .notANumber _ => some .number
  | .accepted _ => none

theorem Finding.valid_verdict_iff (label : Text) (f : Finding) :
    (f.verdict label).valid = true ↔ f.kind? = none := by
  cases f <;> simp [verdict, kind?, Verdict.valid, Verdict.fail, Verdict.caution, Verdict.praise]

/-- A verdict reports the kind of its finding and no other. -/
theorem Finding.isReported_verdict_iff (label : Text) (f : Finding) (k : ErrorKind) :
    k.IsReported (f.verdict label) ↔ f.kind? = some k := by
  have hown : ∀ k', f.kind? = some k' → ErrorKind.IsReported (f.verdict label) k' := by
    intro k' hk
    cases f <;> simp only [kind?, Option.some.injEq, reduceCtorEq] at hk <;> subst hk <;>
      simp only [ErrorKind.IsReported, verdict, Verdict.fail, List.append_assoc] <;>
      exact ⟨_, rfl⟩
  constructor
  · rintro ⟨rest, herror⟩
    cases hk : f.kind? with
    | none =>
      have hvalid := (f.valid_verdict_iff label).mpr hk
      simp [Verdict.valid, herror] at hvalid
    | some k' =>
      obtain ⟨rest', herror'⟩ := hown k' hk
      rw [herror] at herror'
      rw [ErrorKind.heading_append_inj (Option.some.inj herror')]
  · exact hown k

/-! ## The finding of an entry -/

/-- A side is missing where there is a slash and no magnitude. -/
theorem Scan.lacksSide_iff {s : Scan} :
    s.lacksSide = true ↔ '/' ∈ s.body ∧ Magnitude.parse? s.body = none := by
  unfold Scan.lacksSide Scan.hasSlash Magnitude.isCompleteRatio
  cases h : Magnitude.parse? s.body with
  | none => simp
  | some m =>
    have hratio := Magnitude.isRatio_iff_of_parse? h
    simp only [Bool.and_eq_true, List.contains_iff_mem, Bool.not_eq_true', reduceCtorEq,
      and_false, iff_false, not_and, Bool.not_eq_false]
    exact hratio.mpr

theorem lead_ne_typo {entry : Text} (h : ∀ t : Typo, ¬t.sign <+: strip entry) (t : Typo) :
    (scan entry).lead ≠ .typo t :=
  fun hlead => h t (lead_eq_typo_iff.mp hlead)

/-- Without a misspelt sign it is the body that is read or not. -/
theorem parse?_body_of_parse? {entry : Text} (h : ∀ t : Typo, ¬t.sign <+: strip entry)
    (hread : parse? entry = none) : Magnitude.parse? (scan entry).body = none := by
  have hlead := lead_ne_typo h
  unfold parse? Scan.threshold? at hread
  split at hread
  · rename_i t ht
    exact absurd ht (hlead t)
  · simpa using hread

/-- Nothing is read from a text with a misspelt sign. -/
theorem parse?_of_typo {entry : Text} {t : Typo} (h : t.sign <+: strip entry) :
    parse? entry = none := by
  simp [parse?, Scan.threshold?, lead_eq_typo_iff.mpr h]

theorem Typo.sign_ne_nil (t : Typo) : t.sign ≠ [] := by
  cases t <;> decide

theorem strip_ne_nil_of_typo {entry : Text} {t : Typo} (h : t.sign <+: strip entry) :
    strip entry ≠ [] := by
  intro hnil
  rw [hnil, List.prefix_nil] at h
  exact t.sign_ne_nil h

theorem text_isEmpty_eq_false {entry : Text} (h : strip entry ≠ []) :
    (scan entry).text.isEmpty = false :=
  List.isEmpty_eq_false_iff.mpr h

theorem examine_of_blank {entry : Text} (h : strip entry = []) : examine entry = .blank := by
  have htext : (scan entry).text.isEmpty = true := List.isEmpty_iff.mpr h
  simp [examine, htext]

theorem examine_of_typo {entry : Text} {t : Typo} (h : t.sign <+: strip entry) :
    examine entry = .misspelt t := by
  have htext := text_isEmpty_eq_false (strip_ne_nil_of_typo h)
  simp [examine, htext, lead_eq_typo_iff.mpr h]

/-- What is read is accepted: stripping the text once more changes
nothing. -/
theorem examine_of_parse? {entry : Text} {t : Threshold} (h : parse? entry = some t) :
    examine entry = .accepted t := by
  have htext : (scan entry).text.isEmpty = false := by
    apply text_isEmpty_eq_false
    intro hnil
    rw [parse?_of_strip_eq_nil hnil] at h
    cases h
  have hjudge : examine.judge (scan entry) = .accepted t := by
    have hagain : parse? (scan entry).text = some t := (parse?_strip entry).trans h
    simp [examine.judge, hagain]
  obtain ⟨hlead, hbody, _⟩ := threshold?_eq_some_iff.mp h
  have hside : (scan entry).lacksSide = false := by
    rw [← Bool.not_eq_true, Scan.lacksSide_iff, hbody]
    simp
  cases ho : t.operator <;> cases hu : (scan entry).unit <;>
    simp [examine, htext, hlead, ho, Lead.ofOperator, hu, hside, hjudge]

/-- The finding of a text that is neither blank, misspelt nor read. -/
theorem examine_of_unreadable {entry : Text} (h : ErrorKind.Unreadable entry) :
    examine entry =
      if '/' ∈ (scan entry).body then
        match (scan entry).unit with
        | some u => .incompleteRatioWithUnit (scan entry).fragment u
        | none => .incompleteRatio (scan entry).fragment
      else .notANumber (scan entry).fragment := by
  obtain ⟨hne, htypo, hread⟩ := h
  have htext := text_isEmpty_eq_false hne
  have hjudge : examine.judge (scan entry) = .notANumber (scan entry).fragment := by
    have hagain : parse? (scan entry).text = none := (parse?_strip entry).trans hread
    simp [examine.judge, hagain]
  have hside : (scan entry).lacksSide = true ↔ '/' ∈ (scan entry).body := by
    rw [Scan.lacksSide_iff]
    exact and_iff_left (parse?_body_of_parse? htypo hread)
  have hlead := lead_ne_typo htypo
  cases hl : (scan entry).lead with
  | typo t => exact absurd hl (hlead t)
  | bare =>
    cases hu : (scan entry).unit <;> simp [examine, htext, hl, hu, hside, hjudge]
  | operator o =>
    cases hu : (scan entry).unit <;> simp [examine, htext, hl, hu, hside, hjudge]

/-- Every text is blank, misspelt, read or none of these. -/
theorem entry_cases (entry : Text) :
    strip entry = [] ∨ (∃ t : Typo, t.sign <+: strip entry) ∨ (∃ t, parse? entry = some t) ∨
      ErrorKind.Unreadable entry := by
  by_cases hblank : strip entry = []
  · exact Or.inl hblank
  · by_cases htypo : ∃ t : Typo, t.sign <+: strip entry
    · exact Or.inr (Or.inl htypo)
    · cases hread : parse? entry with
      | some t => exact Or.inr (Or.inr (Or.inl ⟨t, rfl⟩))
      | none =>
        exact Or.inr (Or.inr (Or.inr ⟨hblank, fun t ht => htypo ⟨t, ht⟩, hread⟩))

/-- The kind of error that is found is the one that applies. -/
theorem kind?_examine_iff {entry : Text} {k : ErrorKind} :
    (examine entry).kind? = some k ↔ k.Applies entry := by
  rcases entry_cases entry with hblank | ⟨t, htypo⟩ | ⟨t, hread⟩ | hnone
  · have hnotypo : ¬∃ t : Typo, t.sign <+: strip entry :=
      fun ⟨_, ht⟩ => strip_ne_nil_of_typo ht hblank
    have hnot : ¬ErrorKind.Unreadable entry := fun h => h.1 hblank
    rw [examine_of_blank hblank]
    cases k <;> simp [Finding.kind?, ErrorKind.Applies, hnotypo, hnot]
  · have hsome : ∃ t : Typo, t.sign <+: strip entry := ⟨t, htypo⟩
    have hnot : ¬ErrorKind.Unreadable entry := fun h => h.2.1 t htypo
    rw [examine_of_typo htypo]
    cases k <;> simp [Finding.kind?, ErrorKind.Applies, hsome, hnot]
  · have hnotypo : ¬∃ t : Typo, t.sign <+: strip entry := by
      rintro ⟨t', ht'⟩
      rw [parse?_of_typo ht'] at hread
      cases hread
    have hnot : ¬ErrorKind.Unreadable entry := by
      intro h
      rw [h.2.2] at hread
      cases hread
    rw [examine_of_parse? hread]
    cases k <;> simp [Finding.kind?, ErrorKind.Applies, hnotypo, hnot]
  · have hnotypo : ¬∃ t : Typo, t.sign <+: strip entry := fun ⟨t, ht⟩ => hnone.2.1 t ht
    rw [examine_of_unreadable hnone]
    by_cases hslash : '/' ∈ (scan entry).body <;> cases hu : (scan entry).unit <;>
      cases k <;> simp [Finding.kind?, ErrorKind.Applies, hnone, hnotypo, hslash, hu]

/-! ## The verdict on an entry -/

/-- The success text of a threshold with these parts. -/
def successText (compares ratio united : Bool) : Text :=
  match compares, ratio, united with
  | true, true, _ => "✓ Valid threshold with ratio and operator"
  | true, false, _ => "✓ Valid threshold with operator"
  | false, true, _ => "✓ Valid threshold with ratio"
  | false, false, true => "✓ Valid threshold with unit"
  | false, false, false => "✓ Valid threshold"

theorem praise_eq (t : Threshold) :
    t.praise = successText t.operator.isSome t.isRatio t.unit.isSome := by
  obtain ⟨o, m, u⟩ := t
  cases o <;> cases m <;> cases u <;> rfl

/-- An entry is valid exactly when it is blank or read. -/
theorem valid_check_iff (label entry : Text) :
    (check label entry).valid = true ↔ strip entry = [] ∨ parse? entry ≠ none := by
  rw [check, Finding.valid_verdict_iff]
  rcases entry_cases entry with hblank | ⟨t, htypo⟩ | ⟨t, hread⟩ | hnone
  · simp [examine_of_blank hblank, Finding.kind?, hblank]
  · simp [examine_of_typo htypo, Finding.kind?, strip_ne_nil_of_typo htypo,
      parse?_of_typo htypo]
  · simp [examine_of_parse? hread, Finding.kind?, hread]
  · obtain ⟨hne, _, hread⟩ := id hnone
    rw [examine_of_unreadable hnone]
    by_cases hslash : '/' ∈ (scan entry).body <;> cases hu : (scan entry).unit <;>
      simp [Finding.kind?, hslash, hne, hread]

/-- **The check and the reader agree.** An entry is valid exactly when it
is blank or read; the kind of its error is the one that applies, and to
an invalid entry exactly one does; and the success text is that of the
threshold that is read. -/
theorem check_agrees_with_parse? (label : Text) (entry : Option Text) :
    let e := Text.entered entry
    ((check label e).valid = true ↔ strip e = [] ∨ parse? e ≠ none) ∧
      (∀ k : ErrorKind, k.IsReported (check label e) ↔ k.Applies e) ∧
      ((check label e).valid = false → ∃! k : ErrorKind, k.Applies e) ∧
      (∀ t, parse? e = some t →
        check label e =
          .praise (successText t.operator.isSome t.isRatio t.unit.isSome)) := by
  refine ⟨valid_check_iff label _, ?_, ?_, ?_⟩
  · intro k
    rw [check, Finding.isReported_verdict_iff, kind?_examine_iff]
  · intro hinvalid
    cases hk : (examine (Text.entered entry)).kind? with
    | none =>
      rw [check, (Finding.valid_verdict_iff label _).mpr hk] at hinvalid
      cases hinvalid
    | some k =>
      refine ⟨k, kind?_examine_iff.mp hk, ?_⟩
      intro k' hk'
      rw [← kind?_examine_iff, hk] at hk'
      exact (Option.some.inj hk').symm
  · intro t ht
    rw [check, examine_of_parse? ht, Finding.verdict, praise_eq]

/-- Half a ratio with a unit is refused with the kind for ratios with
units, and no other kind applies to it. -/
theorem check_agrees_with_parse?_half_ratio :
    (check "target" "10/min").valid = false ∧
      ErrorKind.ratioWithUnit.IsReported (check "target" "10/min") ∧
      ∃! k : ErrorKind, k.Applies "10/min" := by
  have hinvalid : (check "target" "10/min").valid = false := by decide +kernel
  have hread : parse? "10/min" = none := by decide +kernel
  have htypo : ∀ t : Typo, ¬t.sign <+: strip "10/min" := by
    intro t
    cases t <;> decide
  obtain ⟨-, hreported, hone, -⟩ := check_agrees_with_parse? "target" (some "10/min")
  refine ⟨hinvalid, (hreported .ratioWithUnit).mpr ?_, hone hinvalid⟩
  exact ⟨⟨by decide, htypo, hread⟩, by decide, by decide⟩

end Threshold
end MetricAudit
