/-
MetricAudit.Proofs.Threshold.Identity — a threshold is known by its text.

Two thresholds of finite numbers, read from a text or not, have one text
exactly if they are equal, their numbers compared as numbers
(`text_eq_iff_agrees`).

A text is cut into the sign, the magnitude and the token that it was made
of (`scan_text`), though a sign may start with another sign and a token
end with another token. The magnitude is cut at its slash, and a number
is got back from its digits, whichever of the notations they are in
(`exists_signed?_plain`).
-/
import MetricAudit.Proofs.Threshold.RoundTrip

namespace MetricAudit

/-! ## Numbers -/

namespace Binary64

theorem plain_zero (negative : Bool) : (zero negative).plain = "0" := by
  cases negative <;> decide +kernel

/-- Equal numbers are the same number, or zeros. -/
theorem eq_or_zeros_of_equals {x y : Binary64} (hx : x.isFinite = true) (h : x.equals y = true) :
    x = y ∨ ∃ s s', x = zero s ∧ y = zero s' := by
  obtain ⟨s, m, k, hc, rfl⟩ := exists_eq_finite hx
  cases y with
  | nan => cases h
  | infinity s' => cases h
  | finite s' m' k' hc' =>
    simp only [equals, Bool.and_eq_true, Bool.or_eq_true, beq_iff_eq] at h
    obtain ⟨⟨rfl, rfl⟩, rfl | rfl⟩ := h
    · exact Or.inl rfl
    · obtain rfl : k = 0 := hc.2.1.resolve_left (by decide)
      exact Or.inr ⟨s, s', rfl, rfl⟩

theorem zero_equals_zero (s s' : Bool) : (zero s).equals (zero s') = true := by
  cases s <;> cases s' <;> rfl

/-- Numbers that one number equals are equal. -/
theorem equals_of_equals {x y z : Binary64} (hz : z.isFinite = true) (hx : z.equals x = true)
    (hy : z.equals y = true) : x.equals y = true := by
  rcases eq_or_zeros_of_equals hz hx with rfl | ⟨s, s', rfl, rfl⟩
  · exact hy
  · rcases eq_or_zeros_of_equals hz hy with rfl | ⟨-, t, -, rfl⟩
    · exact zero_equals_zero s' s
    · exact zero_equals_zero s' t

/-- A number is known by its text. -/
theorem plain_eq_plain_iff {x y : Binary64} (hx : x.isFinite = true) (hy : y.isFinite = true) :
    x.plain = y.plain ↔ x.equals y = true := by
  constructor
  · intro h
    obtain ⟨n, hread, -, hequals⟩ := exists_signed?_plain hx
    obtain ⟨n', hread', hfinite, hequals'⟩ := exists_signed?_plain hy
    rw [h, hread'] at hread
    obtain rfl := Option.some.inj hread
    exact equals_of_equals hfinite hequals hequals'
  · intro h
    rcases eq_or_zeros_of_equals hx h with rfl | ⟨s, s', rfl, rfl⟩
    · rfl
    · rw [plain_zero, plain_zero]

end Binary64

/-! ## Magnitudes -/

namespace Magnitude

/-- A number has no slash in its text. -/
theorem slash_notMem_plain {x : Binary64} (hx : x.isFinite = true) : '/' ∉ x.plain := by
  intro hmem
  cases Binary64.isNumeralChar_of_mem_plain hx '/' hmem

/-- A magnitude is known by its text. -/
theorem text_eq_text_iff {m m' : Magnitude} (hm : m.IsFinite) (hm' : m'.IsFinite) :
    m.text = m'.text ↔ m.Agrees m' := by
  cases m with
  | scalar x =>
    cases m' with
    | scalar y => exact Binary64.plain_eq_plain_iff hm hm'
    | ratio n' d' =>
      refine iff_of_false (fun h => slash_notMem_plain hm ?_) id
      rw [show x.plain = n'.plain ++ '/' :: d'.plain from h]
      simp
  | ratio n d =>
    cases m' with
    | scalar y =>
      refine iff_of_false (fun h => slash_notMem_plain hm' ?_) id
      rw [← show n.plain ++ '/' :: d.plain = y.plain from h]
      simp
    | ratio n' d' =>
      obtain ⟨hn, hd⟩ := hm
      obtain ⟨hn', hd'⟩ := hm'
      simp only [text, Agrees]
      rw [List.append_cons_inj_of_notMem (slash_notMem_plain hn) (slash_notMem_plain hd),
        Binary64.plain_eq_plain_iff hn hn', Binary64.plain_eq_plain_iff hd hd', eq_self, true_and]

end Magnitude

/-! ## Thresholds -/

namespace Threshold

/-- **A threshold is known by its text.** Thresholds of finite numbers have
one text exactly if they have one comparison, one unit, and magnitudes of
one kind and of equal numbers. -/
theorem text_eq_iff_agrees {t t' : Threshold} (h : t.magnitude.IsFinite)
    (h' : t'.magnitude.IsFinite) : t.text = t'.text ↔ t.Agrees t' := by
  rw [Agrees, ← Magnitude.text_eq_text_iff h h']
  constructor
  · intro htext
    obtain ⟨hlead, hunit, hbody⟩ := scan_text h.text_ne_nil h.isMagnitudeChar_of_mem_text
    obtain ⟨hlead', hunit', hbody'⟩ := scan_text h'.text_ne_nil h'.isMagnitudeChar_of_mem_text
    rw [htext] at hlead hunit hbody
    exact ⟨Lead.ofOperator_inj.mp (hlead.symm.trans hlead'), hbody.symm.trans hbody',
      hunit.symm.trans hunit'⟩
  · rintro ⟨hoperator, hmagnitude, hunit⟩
    rw [text, text, hoperator, hmagnitude, hunit]

/-- The zeros have one text, and so do the thresholds `>0s` of either; a
quotient of the zeros has another. -/
theorem text_eq_iff_agrees_zeros :
    (⟨some .above, .scalar (.zero true), some .seconds⟩ : Threshold).Agrees
        ⟨some .above, .scalar (.zero false), some .seconds⟩ ∧
      (⟨some .above, .scalar (.zero true), some .seconds⟩ : Threshold).text ≠
        (⟨some .above, .ratio (.zero true) (.zero false), some .seconds⟩ : Threshold).text := by
  have hscalar : ∀ s, (Magnitude.scalar (.zero s)).IsFinite := fun _ => rfl
  have hratio : (Magnitude.ratio (.zero true) (.zero false)).IsFinite := ⟨rfl, rfl⟩
  constructor
  · exact (text_eq_iff_agrees (hscalar true) (hscalar false)).mp (by decide +kernel)
  · exact fun h => ((text_eq_iff_agrees (hscalar true) hratio).mp h).2.1

end Threshold
end MetricAudit
