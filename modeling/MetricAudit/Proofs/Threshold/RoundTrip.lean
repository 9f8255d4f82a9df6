/-
MetricAudit.Proofs.Threshold.RoundTrip — thresholds read back from their
text.

A threshold that was read is written without blanks, so its text is cut
into its sign, its magnitude and its token again (`scan_text`), and
what is left is whether the magnitude reads back.

* A single number is written as a spelling of its value and signed
  numerals have exponents, so it always does (`exists_signed?_plain`).
* The sides of a ratio are unsigned numerals, which have none. A side
  reads back exactly if it is not between zero and 10^-4
  (`exists_unsigned?_plain`, `unsigned?_plain_of_isTiny`).

`parse?_text_agrees` puts this together: the text of a threshold that was
read gives an equal threshold, unless a side of a ratio is so small that
it is written with an exponent; then it gives none.
-/
import MetricAudit.Proofs.Number.Spelling
import MetricAudit.Proofs.Threshold.Reading

namespace MetricAudit

open Text (isBlank squeeze strip)

namespace Threshold

theorem isBlank_of_isMagnitudeChar {c : Char} (hc : isMagnitudeChar c = true) :
    isBlank c = false := by
  simp only [isMagnitudeChar, Bool.or_eq_true, beq_iff_eq] at hc
  rcases hc with hc | rfl
  · exact Numeral.isBlank_of_isNumeralChar hc
  · rfl

/-- The text of a threshold is cut into the sign, the magnitude and the
token that it is made of. -/
theorem scan_text {t : Threshold} (hne : t.magnitude.text ≠ [])
    (hchars : ∀ c ∈ t.magnitude.text, isMagnitudeChar c = true) :
    (scan t.text).lead = Lead.ofOperator t.operator ∧ (scan t.text).unit = t.unit ∧
      (scan t.text).body = t.magnitude.text := by
  have hblank : ∀ c ∈ t.magnitude.text, isBlank c = false :=
    fun c hc => isBlank_of_isMagnitudeChar (hchars c hc)
  have hstrip : strip t.text =
      (Lead.ofOperator t.operator).sign ++ t.magnitude.text ++ tokenText t.unit := by
    rw [Lead.sign_ofOperator]
    refine Text.strip_of_not_blank fun c hc => ?_
    rcases List.mem_append.mp hc with hc | hc
    · rcases List.mem_append.mp hc with hc | hc
      · exact isBlank_of_mem_signText c hc
      · exact hblank c hc
    · exact isBlank_of_mem_tokenText c hc
  have hsqueeze := Text.squeeze_of_not_blank hblank
  have hscan := scan_of_strip_eq hstrip (fun c hc => Or.inr (hchars c hc)) (by rwa [hsqueeze])
  rwa [hsqueeze] at hscan

theorem Lead.ofOperator_inj {o o' : Option Operator} :
    Lead.ofOperator o = Lead.ofOperator o' ↔ o = o' := by
  cases o <;> cases o' <;> simp [Lead.ofOperator]

/-- The text of a threshold is read if its magnitude is. -/
theorem parse?_text {t : Threshold} (hne : t.magnitude.text ≠ [])
    (hchars : ∀ c ∈ t.magnitude.text, isMagnitudeChar c = true) :
    parse? t.text =
      (Magnitude.parse? t.magnitude.text).map (⟨t.operator, ·, t.unit⟩) := by
  obtain ⟨hlead, hunit, hbody⟩ := scan_text hne hchars
  ext t'
  rw [parse?, threshold?_eq_some_iff, hlead, hunit, hbody, Lead.ofOperator_inj,
    Option.map_eq_some_iff]
  constructor
  · rintro ⟨hoperator, hread, hunit'⟩
    exact ⟨t'.magnitude, hread, by rw [hoperator, hunit']⟩
  · rintro ⟨m, hread, rfl⟩
    exact ⟨rfl, hread, rfl⟩

end Threshold

/-! ## Numbers read back -/

namespace Binary64

theorem withSign_isNegative (x : Binary64) : x.withSign x.isNegative = x := by
  cases x <;> rfl

theorem equals_self {x : Binary64} (hx : x.isFinite = true) : x.equals x = true := by
  have hsame := equals_withSign hx (Or.inl rfl)
  rwa [withSign_isNegative] at hsame

theorem isNegative_toBinary64 (d : Decimal) : (d.toBinary64 false).isNegative = false := by
  rw [Decimal.toBinary64_withSign]
  cases d.toBinary64 false <;> rfl

end Binary64

namespace Numeral

theorem finiteValue?_eq_some_iff {n : Numeral} {x : Binary64} :
    n.finiteValue? = some x ↔ n.value.isFinite = true ∧ n.value = x := by
  unfold finiteValue?
  split <;> rename_i h <;> simp [h]

/-- An unsigned numeral has no minus sign. -/
theorem negative_of_unsigned? {s : Text} {n : Numeral} (h : unsigned? s = some n) :
    n.negative = false := by
  cases unsigned?_eq_some_iff.mp h <;> rfl

end Numeral

namespace Magnitude

/-- A numeral of a finite value is a magnitude. -/
theorem parse?_of_signed? {body : Text} {n : Numeral} (h : Numeral.signed? body = some n)
    (hfinite : n.value.isFinite = true) : parse? body = some (.scalar n.value) := by
  have hslash : body.dropWhile (· != '/') = [] := by
    refine List.dropWhile_eq_nil_iff.mpr fun c hc => ?_
    have hchar := Numeral.isNumeralChar_of_signed? h c hc
    rw [bne_iff_ne]
    rintro rfl
    cases hchar
  rw [parse?, hslash]
  simp [h, Numeral.finiteValue?, hfinite]

/-- A text with a slash is read as its two sides. -/
theorem parse?_slash {left right : Text} (h : ∀ c ∈ left, Numeral.isNumeralChar c = true) :
    parse? (left ++ '/' :: right) = ofSides? left right := by
  have hleft : ∀ c ∈ left, (c != '/') = true := by
    intro c hc
    have hchar := h c hc
    rw [bne_iff_ne]
    rintro rfl
    cases hchar
  rw [parse?, List.dropWhile_append_of_pos hleft, List.takeWhile_append_of_pos hleft]
  simp

end Magnitude

namespace Binary64

/-- The text of a finite number is a signed numeral of an equal value. -/
theorem exists_signed?_plain {x : Binary64} (hx : x.isFinite = true) :
    ∃ n, Numeral.signed? x.plain = some n ∧ n.value.isFinite = true ∧
      n.value.equals x = true := by
  obtain ⟨negative, p, htext, hvalue, -, hsign, -⟩ := Spelling.exists_spelling_plain hx
  refine ⟨p.numeral negative, ?_, ?_, ?_⟩
  · rw [htext, Spelling.signed?_text]
  · rw [hvalue, isFinite_withSign, hx]
  · rw [hvalue]
    exact equals_withSign hx hsign

theorem isNumeralChar_of_mem_plain {x : Binary64} (hx : x.isFinite = true) :
    ∀ c ∈ x.plain, Numeral.isNumeralChar c = true := by
  obtain ⟨n, hread, -, -⟩ := exists_signed?_plain hx
  exact Numeral.isNumeralChar_of_signed? hread

theorem plain_ne_nil {x : Binary64} (hx : x.isFinite = true) : x.plain ≠ [] := by
  obtain ⟨n, hread, -, -⟩ := exists_signed?_plain hx
  intro hnil
  rw [hnil] at hread
  cases hread

/-- What a number without a minus sign is written as: a spelling of just
this number, with an exponent exactly if it is tiny. -/
theorem exists_spelling_of_nonneg {x : Binary64} (hx : x.isFinite = true)
    (hsign : x.isNegative = false) :
    ∃ p : Spelling, x.plain = p.text ∧ (p.numeral false).value = x ∧
      (p.tail = [] ↔ ¬x.IsTiny) := by
  obtain ⟨negative, p, htext, hvalue, hneg, -, htail⟩ := Spelling.exists_spelling_plain hx
  have hpositive : negative = x.isNegative := by
    cases negative with
    | false => exact hsign.symm
    | true => exact (hneg rfl).symm
  rw [hpositive, withSign_isNegative] at hvalue
  rw [hpositive, hsign] at htext
  rw [hsign] at hvalue
  exact ⟨p, htext, hvalue, htail⟩

/-- A number that is not tiny reads back as an unsigned numeral. -/
theorem exists_unsigned?_plain {x : Binary64} (hx : x.isFinite = true)
    (hsign : x.isNegative = false) (h : ¬x.IsTiny) :
    ∃ n, Numeral.unsigned? x.plain = some n ∧ n.value = x := by
  obtain ⟨p, htext, hvalue, htail⟩ := exists_spelling_of_nonneg hx hsign
  exact ⟨p.numeral false, by rw [htext, Spelling.unsigned?_text (htail.mpr h)], hvalue⟩

/-- A tiny one does not. -/
theorem unsigned?_plain_of_isTiny {x : Binary64} (hx : x.isFinite = true)
    (hsign : x.isNegative = false) (h : x.IsTiny) : Numeral.unsigned? x.plain = none := by
  obtain ⟨p, htext, -, htail⟩ := exists_spelling_of_nonneg hx hsign
  rw [htext]
  exact Spelling.unsigned?_text_of_tail fun hnil => htail.mp hnil h

end Binary64

/-! ## Magnitudes read back -/

namespace Magnitude

/-- The numbers of a magnitude, as they come from reading. -/
def IsReadable : Magnitude → Prop
  | .scalar x => x.isFinite = true
  | .ratio n d => (n.isFinite = true ∧ n.isNegative = false) ∧
      (d.isFinite = true ∧ d.isNegative = false)

/-- A side of a ratio is between 0 and 10^-4. -/
def HasTinySide : Magnitude → Prop
  | .scalar _ => False
  | .ratio n d => n.IsTiny ∨ d.IsTiny

instance (m : Magnitude) : Decidable m.HasTinySide :=
  match m with
  | .scalar _ => inferInstanceAs (Decidable False)
  | .ratio n d => inferInstanceAs (Decidable (n.IsTiny ∨ d.IsTiny))

/-- Magnitudes of one kind and of equal numbers. -/
def Agrees : Magnitude → Magnitude → Prop
  | .scalar x, .scalar y => x.equals y = true
  | .ratio n d, .ratio n' d' => n.equals n' = true ∧ d.equals d' = true
  | _, _ => False

theorem isReadable_of_parse? {body : Text} {m : Magnitude} (h : parse? body = some m) :
    m.IsReadable := by
  have hside : ∀ {s : Text} {n : Numeral} {x : Binary64}, Numeral.unsigned? s = some n →
      n.finiteValue? = some x → x.isFinite = true ∧ x.isNegative = false := by
    intro s n x hn hx
    obtain ⟨hfinite, rfl⟩ := Numeral.finiteValue?_eq_some_iff.mp hx
    refine ⟨hfinite, ?_⟩
    rw [Numeral.value, Numeral.negative_of_unsigned? hn]
    exact Binary64.isNegative_toBinary64 n.decimal
  unfold parse? at h
  split at h
  · simp only [ofSides?, Option.bind_eq_bind, Option.bind_eq_some_iff] at h
    obtain ⟨n, hn, d, hd, x, hx, y, hy, hm⟩ := h
    obtain rfl := Option.some.inj hm
    exact ⟨hside hn hx, hside hd hy⟩
  · simp only [Option.bind_eq_bind, Option.bind_eq_some_iff] at h
    obtain ⟨n, hn, x, hx, hm⟩ := h
    obtain rfl := Option.some.inj hm
    obtain ⟨hfinite, rfl⟩ := Numeral.finiteValue?_eq_some_iff.mp hx
    exact hfinite

/-- The numbers of a magnitude are finite. -/
def IsFinite : Magnitude → Prop
  | .scalar x => x.isFinite = true
  | .ratio n d => n.isFinite = true ∧ d.isFinite = true

theorem IsReadable.isFinite {m : Magnitude} (hm : m.IsReadable) : m.IsFinite := by
  cases m with
  | scalar x => exact hm
  | ratio n d => exact ⟨hm.1.1, hm.2.1⟩

/-- The text of a magnitude is one of numbers and of at most a slash. -/
theorem IsFinite.isMagnitudeChar_of_mem_text {m : Magnitude} (hm : m.IsFinite) :
    ∀ c ∈ m.text, Threshold.isMagnitudeChar c = true := by
  have hplain : ∀ {x : Binary64}, x.isFinite = true → ∀ c ∈ x.plain,
      Threshold.isMagnitudeChar c = true := by
    intro x hx c hc
    simp [Threshold.isMagnitudeChar, Binary64.isNumeralChar_of_mem_plain hx c hc]
  intro c hc
  cases m with
  | scalar x => exact hplain hm c hc
  | ratio n d =>
    rcases List.mem_append.mp hc with hc | hc
    · exact hplain hm.1 c hc
    · rcases List.mem_cons.mp hc with rfl | hc
      · rfl
      · exact hplain hm.2 c hc

theorem IsFinite.text_ne_nil {m : Magnitude} (hm : m.IsFinite) : m.text ≠ [] := by
  cases m with
  | scalar x => exact Binary64.plain_ne_nil hm
  | ratio n d => exact List.append_ne_nil_of_right_ne_nil _ (by simp)

theorem isMagnitudeChar_of_mem_text {m : Magnitude} (hm : m.IsReadable) :
    ∀ c ∈ m.text, Threshold.isMagnitudeChar c = true :=
  hm.isFinite.isMagnitudeChar_of_mem_text

theorem text_ne_nil {m : Magnitude} (hm : m.IsReadable) : m.text ≠ [] :=
  hm.isFinite.text_ne_nil

/-- The text of a magnitude without tiny sides reads back. -/
theorem exists_parse?_text {m : Magnitude} (hm : m.IsReadable) (h : ¬m.HasTinySide) :
    ∃ m', parse? m.text = some m' ∧ m'.Agrees m := by
  cases m with
  | scalar x =>
    obtain ⟨n, hread, hfinite, hequals⟩ := Binary64.exists_signed?_plain hm
    exact ⟨.scalar n.value, parse?_of_signed? hread hfinite, hequals⟩
  | ratio n d =>
    obtain ⟨⟨hn, hnsign⟩, hd, hdsign⟩ := hm
    obtain ⟨hntiny, hdtiny⟩ := not_or.mp h
    obtain ⟨n', hn', hnvalue⟩ := Binary64.exists_unsigned?_plain hn hnsign hntiny
    obtain ⟨d', hd', hdvalue⟩ := Binary64.exists_unsigned?_plain hd hdsign hdtiny
    refine ⟨.ratio n d, ?_, Binary64.equals_self hn, Binary64.equals_self hd⟩
    rw [text, parse?_slash (Binary64.isNumeralChar_of_mem_plain hn)]
    simp [ofSides?, hn', hd', Numeral.finiteValue?, hnvalue, hdvalue, hn, hd]

/-- The text of a magnitude with a tiny side does not. -/
theorem parse?_text_of_hasTinySide {m : Magnitude} (hm : m.IsReadable) (h : m.HasTinySide) :
    parse? m.text = none := by
  cases m with
  | scalar x => cases h
  | ratio n d =>
    obtain ⟨⟨hn, hnsign⟩, hd, hdsign⟩ := hm
    rw [text, parse?_slash (Binary64.isNumeralChar_of_mem_plain hn)]
    rcases h with htiny | htiny
    · simp [ofSides?, Binary64.unsigned?_plain_of_isTiny hn hnsign htiny]
    · simp [ofSides?, Binary64.unsigned?_plain_of_isTiny hd hdsign htiny]

end Magnitude

/-! ## Thresholds read back -/

namespace Threshold

/-- Thresholds that are equal, their numbers compared as numbers. -/
def Agrees (t t' : Threshold) : Prop :=
  t.operator = t'.operator ∧ t.magnitude.Agrees t'.magnitude ∧ t.unit = t'.unit

/-- **Reading back.** The text of a threshold that was read gives an equal
threshold if no side of a ratio is between 0 and 10^-4, and nothing if
one is. -/
theorem parse?_text_agrees (entry : Option Text) {t : Threshold}
    (h : parse? (Text.entered entry) = some t) :
    (¬t.magnitude.HasTinySide → ∃ t', parse? t.text = some t' ∧ t'.Agrees t) ∧
      (t.magnitude.HasTinySide → parse? t.text = none) := by
  obtain ⟨-, hbody, -⟩ := threshold?_eq_some_iff.mp h
  have hreadable := Magnitude.isReadable_of_parse? hbody
  have hparse := parse?_text (Magnitude.text_ne_nil hreadable)
    (Magnitude.isMagnitudeChar_of_mem_text hreadable)
  constructor
  · intro hplain
    obtain ⟨m, hread, hagrees⟩ := Magnitude.exists_parse?_text hreadable hplain
    exact ⟨⟨t.operator, m, t.unit⟩, by rw [hparse, hread]; rfl, rfl, hagrees, rfl⟩
  · intro htiny
    rw [hparse, Magnitude.parse?_text_of_hasTinySide hreadable htiny]
    rfl

/-- A ratio of ordinary sides is read back. -/
theorem parse?_text_agrees_ratio :
    ∃ t, parse? ">= 1 0/0.75 min" = some t ∧ t.text = ">=10/0.75min" ∧
      ∃ t', parse? t.text = some t' ∧ t'.Agrees t := by
  have hread : (parse? ">= 1 0/0.75 min").map
      (fun t => (t.text, decide t.magnitude.HasTinySide)) =
      some ((">=10/0.75min" : Text), false) := by decide +kernel
  obtain ⟨t, ht, hout⟩ := Option.map_eq_some_iff.mp hread
  obtain ⟨htext, htiny⟩ := Prod.mk.inj hout
  refine ⟨t, ht, htext, ?_⟩
  exact (parse?_text_agrees (some ">= 1 0/0.75 min") ht).1 (of_decide_eq_false htiny)

/-- A tiny side is written with an exponent, which no side of a ratio may
have. -/
theorem exists_text_unreadable :
    ∃ t, parse? "0.00001/3" = some t ∧ t.text = "1e-05/3" ∧ parse? t.text = none := by
  have hread : (parse? "0.00001/3").map (·.text) = some ("1e-05/3" : Text) := by
    decide +kernel
  have hnone : parse? "1e-05/3" = none := by decide +kernel
  obtain ⟨t, ht, htext⟩ := Option.map_eq_some_iff.mp hread
  exact ⟨t, ht, htext, by rw [htext, hnone]⟩

end Threshold
end MetricAudit
