/-
MetricAudit.Proofs.Number.Shown — shown numbers are numerals of documents.

Formats of documents take a numeral for a real number only if it has a
fraction or an exponent, and let its whole part start with zero only if
it is zero. A shown number is of this kind (`startsWhole_write`), and it
is read as the very number that is shown, sign included
(`exists_spelling_shown`).
-/
import MetricAudit.Proofs.Number.Spelling

namespace MetricAudit

open Text (isAsciiDigit natOfDigits)

namespace Spelling

/-- A natural number as it is written stands at the front, and something
that is no digit behind it. -/
def StartsWhole (s : Text) : Prop :=
  ∃ (n : Nat) (c : Char) (rest : Text), s = Text.ofNat n ++ c :: rest ∧ isAsciiDigit c = false

theorem startsWhole_zero {c : Char} (hc : isAsciiDigit c = false) (rest : Text) :
    StartsWhole ('0' :: c :: rest) :=
  ⟨0, c, rest, rfl, hc⟩

section
variable {digits : Text} (hne : digits ≠ []) (hdigits : ∀ c ∈ digits, isAsciiDigit c = true)
  (hhead : digits.head? ≠ some '0')

include hne hdigits hhead

theorem startsWhole_of_digits {c : Char} (hc : isAsciiDigit c = false) (rest : Text) :
    StartsWhole (digits ++ c :: rest) :=
  ⟨natOfDigits digits, c, rest, by rw [Text.ofNat_natOfDigits hne hdigits hhead], hc⟩

theorem startsWhole_inPlace (scale : Int) :
    StartsWhole (Layout.inPlace true digits scale) := by
  cases scale with
  | negSucc zeros => exact startsWhole_zero rfl _
  | ofNat n =>
    unfold Layout.inPlace
    dsimp only
    set padded := digits ++ List.replicate (n + 1 - digits.length) '0' with hpadded
    have hne' : padded ≠ [] := List.append_ne_nil_of_left_ne_nil hne _
    have hdigits' : ∀ c ∈ padded, isAsciiDigit c = true := fun c hc =>
      (List.mem_append.mp hc).elim (hdigits c) digit_of_mem_zeros
    have hhead' : padded.head? ≠ some '0' := by rwa [List.head?_append_of_ne_nil _ hne]
    split
    · rw [if_pos rfl]
      exact startsWhole_of_digits hne' hdigits' hhead' rfl ['0']
    · refine startsWhole_of_digits (by simpa using hne')
        (fun c hc => hdigits' c (List.mem_of_mem_take hc)) ?_ rfl _
      rwa [List.head?_take, if_neg n.succ_ne_zero]

theorem startsWhole_scientific (scale : Int) : StartsWhole (Layout.scientific digits scale) := by
  unfold Layout.scientific
  obtain ⟨d, ds, rfl⟩ := List.exists_cons_of_ne_nil hne
  have hd : ∀ c ∈ [d], isAsciiDigit c = true := fun c hc => hdigits c (by simp_all)
  have hone : [d] ≠ [] := List.cons_ne_nil d []
  cases ds with
  | nil => exact startsWhole_of_digits hone hd hhead rfl _
  | cons e es => exact startsWhole_of_digits hone hd hhead rfl _

end

/-- A decimal is shown with a fraction or an exponent, and without zeros
at the front. -/
theorem startsWhole_write (d : Decimal) : StartsWhole (Layout.shown.write d) := by
  unfold Layout.write
  split
  · exact startsWhole_zero rfl _
  · rename_i hd
    have hne : Text.dropZeros d.digits ≠ [] := Text.dropZeros_ofNat_ne_nil hd
    have hdigits : ∀ c ∈ Text.dropZeros d.digits, isAsciiDigit c = true := fun c hc =>
      Text.isAsciiDigit_of_mem_ofNat (Text.mem_of_mem_dropZeros hc)
    have hhead : (Text.dropZeros d.digits).head? ≠ some '0' := by
      obtain ⟨z, hz⟩ := Text.exists_eq_dropZeros d.digits
      have hfirst : d.digits.head? ≠ some '0' := Text.head?_ofNat_ne hd
      rw [hz, List.head?_append_of_ne_nil _ hne] at hfirst
      exact hfirst
    dsimp only
    split
    · exact startsWhole_inPlace hne hdigits hhead _
    · exact startsWhole_scientific hne hdigits hhead _

/-- What is behind the whole part is a fraction or an exponent. -/
theorem whole_of_startsWhole {p : Spelling} (h : StartsWhole p.text) :
    ∃ n, p.whole = Text.ofNat n ∧ (p.fraction ≠ [] ∨ p.tail ≠ []) := by
  obtain ⟨n, c, rest, htext, hc⟩ := h
  have htake := Numeral.takeDigits_append p.digit_of_mem_whole p.head?_point_not_digit
  rw [← text, htext, Numeral.takeDigits_append (fun c hc => Text.isAsciiDigit_of_mem_ofNat hc)
    (by simpa using hc)] at htake
  obtain ⟨hwhole, hbehind⟩ := Prod.mk.inj htake
  refine ⟨n, hwhole.symm, ?_⟩
  by_contra hnot
  rw [not_or, not_not, not_not] at hnot
  rw [point, hnot.1, hnot.2] at hbehind
  cases hbehind

/-- A finite number is shown as a spelling that is read as the number. -/
theorem exists_spelling_shown {x : Binary64} (hx : x.isFinite = true) :
    ∃ p : Spelling, x.shown = Binary64.signed x.isNegative p.text ∧
      (p.numeral x.isNegative).value = x ∧
      ∃ n, p.whole = Text.ofNat n ∧ (p.fraction ≠ [] ∨ p.tail ≠ []) := by
  obtain ⟨p, htext, hvalue, -⟩ := exists_spelling_write .shown (Decimal.shortest x)
  refine ⟨p, ?_, ?_, whole_of_startsWhole (htext ▸ startsWhole_write _)⟩
  · obtain ⟨s, m, k, hc, rfl⟩ := Binary64.exists_eq_finite hx
    rw [htext]
    rfl
  · rw [value_numeral, Decimal.toBinary64_congr _ hvalue, Decimal.toBinary64_shortest _ hx]
    obtain ⟨s, m, k, hc, rfl⟩ := Binary64.exists_eq_finite hx
    rfl

end Spelling
end MetricAudit
