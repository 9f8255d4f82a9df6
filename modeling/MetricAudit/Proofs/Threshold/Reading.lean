/-
MetricAudit.Proofs.Threshold.Reading — reading a threshold against its
grammar.

`IsWritten s t` says how a text writes a threshold: the sign of the
comparison, a part that is a magnitude once its blanks are taken out,
and the token of the unit. It lays down no order in which signs and
tokens are tried.

`parse?_iff_isWritten` is the main theorem: a text is read as `t`
exactly when its stripped form writes `t`, no text writes two
thresholds, and nothing is read exactly when nothing is written. The
reader tries the misspelt signs first and refuses them; by this theorem
no text with such a start writes anything.

The argument is about single characters. A magnitude holds no blank, no
character of a sign and no end of a token
(`isMagnitudeChar_of_parse?`), so the sign and the token that the reader
takes are the written ones (`scan_of_strip_eq`).
-/
import MetricAudit.Proofs.Threshold.Scan

namespace MetricAudit

open Text (isBlank squeeze strip)

namespace Magnitude

theorem parse?_nil : parse? [] = none := rfl

/-- A magnitude is read from both sides of a slash, or from a text
without any. -/
theorem parse?_cases {body : Text} {m : Magnitude} (h : parse? body = some m) :
    (∃ left right n d, body = left ++ '/' :: right ∧
      Numeral.unsigned? left = some n ∧ Numeral.unsigned? right = some d ∧
      m = .ratio n.value d.value) ∨
    ('/' ∉ body ∧ ∃ n, Numeral.signed? body = some n ∧ m = .scalar n.value) := by
  have hfinite : ∀ {n : Numeral} {x : Binary64}, n.finiteValue? = some x → x = n.value := by
    intro n x hx
    unfold Numeral.finiteValue? at hx
    split at hx
    · exact (Option.some.inj hx).symm
    · cases hx
  unfold parse? at h
  split at h
  · rename_i slash right hslash
    simp only [ofSides?, Option.bind_eq_bind, Option.bind_eq_some_iff] at h
    obtain ⟨n, hn, d, hd, x, hx, y, hy, hm⟩ := h
    have hfirst := List.head?_dropWhile_not (· != '/') body
    simp only [hslash, List.head?_cons, bne_eq_false_iff_eq] at hfirst
    rw [hfinite hx, hfinite hy] at hm
    have hbody : body = body.takeWhile (· != '/') ++ '/' :: right := by
      conv => lhs; rw [← List.takeWhile_append_dropWhile (p := (· != '/')) (l := body)]
      rw [hslash, hfirst]
    exact Or.inl ⟨_, right, n, d, hbody, hn, hd, (Option.some.inj hm).symm⟩
  · rename_i hnone
    simp only [Option.bind_eq_bind, Option.bind_eq_some_iff] at h
    obtain ⟨n, hn, x, hx, hm⟩ := h
    rw [hfinite hx] at hm
    refine Or.inr ⟨?_, n, hn, (Option.some.inj hm).symm⟩
    intro hmem
    have hkept := List.dropWhile_eq_nil_iff.mp hnone '/' hmem
    exact Bool.false_ne_true hkept

/-- A magnitude holds characters of magnitudes only. -/
theorem isMagnitudeChar_of_parse? {body : Text} {m : Magnitude}
    (h : parse? body = some m) : ∀ c ∈ body, Threshold.isMagnitudeChar c = true := by
  intro c hc
  rcases parse?_cases h with ⟨left, right, n, d, rfl, hn, hd, _⟩ | ⟨_, n, hn, _⟩
  · rcases List.mem_append.mp hc with hc | hc
    · have := Numeral.isDecimalChar_of_unsigned? hn c hc
      simp [Threshold.isMagnitudeChar, Numeral.isNumeralChar_of_isDecimalChar this]
    · rcases List.mem_cons.mp hc with rfl | hc
      · rfl
      · have := Numeral.isDecimalChar_of_unsigned? hd c hc
        simp [Threshold.isMagnitudeChar, Numeral.isNumeralChar_of_isDecimalChar this]
  · simp [Threshold.isMagnitudeChar, Numeral.isNumeralChar_of_signed? hn c hc]

/-- A magnitude with a slash is a ratio, and one without is not. -/
theorem isRatio_iff_of_parse? {body : Text} {m : Magnitude} (h : parse? body = some m) :
    m.isRatio = true ↔ '/' ∈ body := by
  rcases parse?_cases h with ⟨left, right, n, d, rfl, _, _, rfl⟩ | ⟨hslash, n, _, rfl⟩
  · exact iff_of_true rfl (List.mem_append_right _ List.mem_cons_self)
  · exact iff_of_false Bool.false_ne_true hslash

end Magnitude

namespace Threshold

/-! ## Written forms -/

/-- The text writes the threshold: the sign of its comparison, a part
that is its magnitude with blanks anywhere, and the token of its unit. -/
def IsWritten (s : Text) (t : Threshold) : Prop :=
  ∃ part, s = signText t.operator ++ part ++ tokenText t.unit ∧
    Magnitude.parse? (squeeze part) = some t.magnitude

/-- The lead of a written comparison. -/
def Lead.ofOperator : Option Operator → Lead
  | none => .bare
  | some o => .operator o

@[simp] theorem Lead.sign_ofOperator (o : Option Operator) :
    (Lead.ofOperator o).sign = signText o := by
  cases o <;> rfl

/-- A threshold is read from a lead that is no misspelling. -/
theorem threshold?_eq_some_iff {s : Scan} {t : Threshold} :
    s.threshold? = some t ↔
      s.lead = Lead.ofOperator t.operator ∧ Magnitude.parse? s.body = some t.magnitude ∧
        s.unit = t.unit := by
  obtain ⟨o, m, u⟩ := t
  unfold Scan.threshold?
  split
  · rename_i typo hlead
    cases o <;> simp [hlead, Lead.ofOperator]
  · rename_i hlead
    cases hl : s.lead with
    | bare => cases o <;> simp [Lead.ofOperator, Lead.operator?, and_comm]
    | typo typo => exact absurd hl (hlead typo)
    | operator o' =>
      cases o <;> simp [Lead.ofOperator, Lead.operator?, and_comm, and_assoc]

/-- Stripping a text before it is read changes nothing. -/
theorem parse?_strip (entry : Text) : parse? (strip entry) = parse? entry := by
  rw [parse?, scan_strip, ← parse?]

/-! ## The two directions -/

/-- What is read is written. -/
theorem isWritten_of_parse? {entry : Text} {t : Threshold} (h : parse? entry = some t) :
    IsWritten (strip entry) t := by
  obtain ⟨hlead, hbody, hunit⟩ := threshold?_eq_some_iff.mp h
  obtain ⟨part, hs, hpart⟩ := exists_strip_eq_of_scan entry
  rw [hlead, hunit, Lead.sign_ofOperator] at hs
  rw [← hpart] at hbody
  exact ⟨part, hs, hbody⟩

/-- What is written is read. -/
theorem parse?_of_isWritten {entry : Text} {t : Threshold} (h : IsWritten (strip entry) t) :
    parse? entry = some t := by
  obtain ⟨part, hs, hbody⟩ := h
  have hchars : ∀ c ∈ part, isBlank c = true ∨ isMagnitudeChar c = true := by
    intro c hc
    rcases Text.mem_squeeze_of_mem hc with hblank | hkept
    · exact Or.inl hblank
    · exact Or.inr (Magnitude.isMagnitudeChar_of_parse? hbody c hkept)
  have hne : squeeze part ≠ [] := by
    intro hnil
    rw [hnil, Magnitude.parse?_nil] at hbody
    cases hbody
  rw [← Lead.sign_ofOperator] at hs
  obtain ⟨hlead, hunit, hscan⟩ := scan_of_strip_eq hs hchars hne
  rw [← hscan] at hbody
  exact threshold?_eq_some_iff.mpr ⟨hlead, hbody, hunit⟩

theorem parse?_eq_some_iff {entry : Text} {t : Threshold} :
    parse? entry = some t ↔ IsWritten (strip entry) t :=
  ⟨isWritten_of_parse?, parse?_of_isWritten⟩

/-- Nothing is read from a blank text. -/
theorem parse?_of_strip_eq_nil {entry : Text} (h : strip entry = []) :
    parse? entry = none := by
  rw [← parse?_strip, h]
  rfl

/-- **Reading is the inverse of writing.** A text is read as a threshold
exactly when its stripped form writes it; no stripped form writes two
thresholds; nothing is read exactly when nothing is written, as from a
blank text. -/
theorem parse?_iff_isWritten (entry : Option Text) :
    let s := strip (Text.entered entry)
    (∀ t, parse? (Text.entered entry) = some t ↔ IsWritten s t) ∧
      (∀ t t', IsWritten s t ∧ IsWritten s t' → t = t') ∧
      (parse? (Text.entered entry) = none ↔ ¬∃ t, IsWritten s t) ∧
      (s = [] → parse? (Text.entered entry) = none) := by
  refine ⟨fun t => parse?_eq_some_iff, ?_, ?_, parse?_of_strip_eq_nil⟩
  · rintro t t' ⟨h, h'⟩
    have hread := parse?_of_isWritten h
    rw [parse?_of_isWritten h'] at hread
    exact (Option.some.inj hread).symm
  · simp only [← parse?_eq_some_iff]
    rw [← Option.isSome_iff_exists, Bool.not_eq_true, Option.isSome_eq_false_iff,
      Option.isNone_iff_eq_none]

/-- A ratio with blanks in it is written in one way, and a text with a
misspelt sign writes nothing. -/
theorem parse?_iff_isWritten_ratio :
    (∃ t, IsWritten ">= 1 0/3 min" t ∧ t.operator = some .atLeast ∧ t.unit = some .minutes ∧
      ∀ t', IsWritten ">= 1 0/3 min" t' → t = t') ∧
    ¬∃ t, IsWritten "=> 10" t := by
  have hparts : (parse? " >= 1 0/3 min").map (fun t => (t.operator, t.unit)) =
      some (some .atLeast, some .minutes) := by decide +kernel
  have hnone : parse? "=> 10" = none := by decide +kernel
  obtain ⟨t, ht, hout⟩ := Option.map_eq_some_iff.mp hparts
  obtain ⟨hoperator, hunit⟩ := Prod.mk.inj hout
  obtain ⟨hread, hunique, -, -⟩ := parse?_iff_isWritten (some " >= 1 0/3 min")
  have hwritten := (hread t).mp ht
  refine ⟨⟨t, hwritten, hoperator, hunit, fun t' ht' => hunique t t' ⟨hwritten, ht'⟩⟩, ?_⟩
  exact (parse?_iff_isWritten (some "=> 10")).2.2.1.mp hnone

end Threshold
end MetricAudit
