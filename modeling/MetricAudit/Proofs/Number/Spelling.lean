/-
MetricAudit.Proofs.Number.Spelling — written numbers read back.

A `Spelling` is a text of digits, a fraction after a point where there is
one, and an exponent where there is one. It is read as what it spells
(`signed?_text`), and as an unsigned numeral exactly if it has no exponent
(`unsigned?_text`, `unsigned?_text_of_tail`).

Every finite number is written as a spelling of its value
(`exists_spelling_plain`): a whole one by its digits, any other by the
decimal that is chosen for it. The spelling has an exponent exactly if
the number is between zero and 10^-4 (`IsTiny`). There is no upper bound
to go with this one, for a number of 10^16 or more is whole.
-/
import MetricAudit.Number.Written
import MetricAudit.Proofs.Number.Decimal
import MetricAudit.Proofs.Number.Grammar

namespace MetricAudit

open Text (isAsciiDigit natOfDigits)

/-! ## Spellings -/

/-- The parts of a written number: digits, a fraction, and the text of an
exponent with what that comes to. -/
structure Spelling where
  whole : Text
  fraction : Text
  tail : Text
  exponent : Int
  whole_ne_nil : whole ≠ []
  digit_of_mem_whole : ∀ c ∈ whole, isAsciiDigit c = true
  digit_of_mem_fraction : ∀ c ∈ fraction, isAsciiDigit c = true
  exponent?_tail : Numeral.exponent? tail = some exponent
  head?_tail : tail = [] ∨ tail.head? = some 'e'

namespace Spelling

/-- The fraction with its point, nothing for want of one. -/
def point (p : Spelling) : Text :=
  match p.fraction with
  | [] => []
  | fraction => '.' :: fraction

def text (p : Spelling) : Text := p.whole ++ (p.point ++ p.tail)

/-- What is spelled, with a sign. -/
def numeral (negative : Bool) (p : Spelling) : Numeral :=
  ⟨negative, p.whole, p.fraction, p.exponent⟩

/-- The number that is spelled, sign apart. -/
def decimal (p : Spelling) : Decimal :=
  ⟨natOfDigits (p.whole ++ p.fraction), p.exponent - p.fraction.length⟩

theorem value_numeral (negative : Bool) (p : Spelling) :
    (p.numeral negative).value = p.decimal.toBinary64 negative := rfl

theorem point_cases (p : Spelling) :
    (p.fraction = [] ∧ p.point = []) ∨ (p.fraction ≠ [] ∧ p.point = '.' :: p.fraction) := by
  cases h : p.fraction with
  | nil => exact Or.inl ⟨rfl, by simp [point, h]⟩
  | cons c cs => exact Or.inr ⟨by simp, by simp [point, h]⟩

theorem tail_cases (p : Spelling) : p.tail = [] ∨ ∃ s, p.tail = 'e' :: s := by
  rcases p.head?_tail with h | h
  · exact Or.inl h
  · exact Or.inr ((List.head?_eq_some_iff).mp h)

/-! ## Reading -/

/-- No digit stands after the whole part, nor after the fraction. -/
theorem head?_tail_not_digit (p : Spelling) : ∀ c ∈ p.tail.head?, isAsciiDigit c = false := by
  intro c hc
  rcases p.tail_cases with h | ⟨s, h⟩ <;> rw [h] at hc
  · cases hc
  · obtain rfl : 'e' = c := by simpa using hc
    rfl

theorem head?_point_not_digit (p : Spelling) :
    ∀ c ∈ (p.point ++ p.tail).head?, isAsciiDigit c = false := by
  intro c hc
  rcases p.point_cases with ⟨_, h⟩ | ⟨_, h⟩ <;> rw [h] at hc
  · exact p.head?_tail_not_digit c hc
  · obtain rfl : '.' = c := by simpa using hc
    rfl

theorem isFraction_point (p : Spelling) : Numeral.IsFraction p.fraction p.point := by
  rcases p.point_cases with ⟨hnil, hpoint⟩ | ⟨-, hpoint⟩ <;> rw [hpoint]
  · rw [hnil]
    exact .none
  · exact .point p.digit_of_mem_fraction

/-- A spelling with a sign is read as what it spells. -/
theorem signed?_text (negative : Bool) (p : Spelling) :
    Numeral.signed? (Binary64.signed negative p.text) = some (p.numeral negative) := by
  have hwrites : ∀ {sign}, Numeral.IsSign negative sign →
      Numeral.Writes (p.numeral negative) (sign ++ p.text) := fun hsign =>
    .mk hsign p.digit_of_mem_whole p.isFraction_point (Or.inl p.whole_ne_nil)
      (Numeral.exponent?_eq_some_iff.mp p.exponent?_tail)
  rw [Numeral.signed?_eq_some_iff]
  cases negative with
  | true => exact hwrites .minus
  | false => exact hwrites .none

/-- A spelling without an exponent is an unsigned numeral. -/
theorem unsigned?_text {p : Spelling} (h : p.tail = []) :
    Numeral.unsigned? p.text = some (p.numeral false) := by
  have hexponent : p.exponent = 0 := by
    have hzero := p.exponent?_tail
    rw [h] at hzero
    exact (Option.some.inj hzero).symm
  rw [Numeral.unsigned?_eq_some_iff, text, h, List.append_nil, numeral, hexponent]
  rcases p.point_cases with ⟨hnil, hpoint⟩ | ⟨hne, hpoint⟩ <;> rw [hpoint]
  · rw [hnil, List.append_nil]
    exact .whole p.whole_ne_nil p.digit_of_mem_whole
  · exact .point p.whole_ne_nil p.digit_of_mem_whole hne p.digit_of_mem_fraction

/-- A spelling with an exponent is not. -/
theorem unsigned?_text_of_tail {p : Spelling} (h : p.tail ≠ []) :
    Numeral.unsigned? p.text = none := by
  obtain ⟨s, hs⟩ := p.tail_cases.resolve_left h
  cases hread : Numeral.unsigned? p.text with
  | none => rfl
  | some n =>
    have hmem : 'e' ∈ p.text := by
      rw [text, hs]
      simp
    cases Numeral.isDecimalChar_of_unsigned? hread 'e' hmem

/-! ## Layouts -/

/-- The digits of a natural number. -/
def ofNat (n : Nat) : Spelling where
  whole := Text.ofNat n
  fraction := []
  tail := []
  exponent := 0
  whole_ne_nil := Text.ofNat_ne_nil n
  digit_of_mem_whole _ hc := Text.isAsciiDigit_of_mem_ofNat hc
  digit_of_mem_fraction _ hc := by cases hc
  exponent?_tail := rfl
  head?_tail := Or.inl rfl

theorem text_ofNat (n : Nat) : (ofNat n).text = Text.ofNat n := by
  simp [text, point, ofNat]

theorem value_decimal_ofNat (n : Nat) : (ofNat n).decimal.value = n := by
  simp [decimal, ofNat, Decimal.value, Text.natOfDigits_ofNat]

/-- Digits in their places, without an exponent. -/
def ofPlaces (whole fraction : Text) (hne : whole ≠ [])
    (hdigits : ∀ c ∈ whole ++ fraction, isAsciiDigit c = true) : Spelling where
  whole := whole
  fraction := fraction
  tail := []
  exponent := 0
  whole_ne_nil := hne
  digit_of_mem_whole c hc := hdigits c (List.mem_append_left _ hc)
  digit_of_mem_fraction c hc := hdigits c (List.mem_append_right _ hc)
  exponent?_tail := rfl
  head?_tail := Or.inl rfl

theorem text_ofPlaces {whole fraction : Text} (hne : whole ≠ [])
    (hdigits : ∀ c ∈ whole ++ fraction, isAsciiDigit c = true) (hfraction : fraction ≠ []) :
    (ofPlaces whole fraction hne hdigits).text = whole ++ '.' :: fraction := by
  rcases (ofPlaces whole fraction hne hdigits).point_cases with ⟨hnil, _⟩ | ⟨_, hpoint⟩
  · exact absurd hnil hfraction
  · rw [text, hpoint]
    simp [ofPlaces]

theorem value_decimal_ofPlaces {whole fraction : Text} (hne : whole ≠ [])
    (hdigits : ∀ c ∈ whole ++ fraction, isAsciiDigit c = true) :
    (ofPlaces whole fraction hne hdigits).decimal.value =
      natOfDigits (whole ++ fraction) * (10 : ℚ) ^ (-(fraction.length : Int)) := by
  simp [decimal, Decimal.value, ofPlaces]

theorem digit_of_mem_zeros {n : Nat} {c : Char} (hc : c ∈ List.replicate n '0') :
    isAsciiDigit c = true := by
  rw [List.eq_of_mem_replicate hc]
  rfl

/-- The text spells, without an exponent, the number of these digits
whose first one has the exponent `scale`. -/
def SpelledInPlace (digits : Text) (scale : Int) (text : Text) : Prop :=
  ∃ p : Spelling, p.text = text ∧ p.tail = [] ∧
    p.decimal.value = natOfDigits digits * (10 : ℚ) ^ (scale + 1 - digits.length)

section
variable {digits : Text} (hne : digits ≠ []) (hdigits : ∀ c ∈ digits, isAsciiDigit c = true)

include hne hdigits

/-- Zeros stand between the point and the digits. -/
theorem spelledInPlace_negSucc (zeros : Nat) :
    SpelledInPlace digits (.negSucc zeros)
      (['0'] ++ '.' :: (List.replicate zeros '0' ++ digits)) := by
  have hall : ∀ c ∈ ['0'] ++ (List.replicate zeros '0' ++ digits), isAsciiDigit c = true := by
    intro c hc
    rcases List.mem_append.mp hc with hc | hc
    · exact digit_of_mem_zeros (n := 1) hc
    · rcases List.mem_append.mp hc with hc | hc
      · exact digit_of_mem_zeros hc
      · exact hdigits c hc
  refine ⟨ofPlaces ['0'] (List.replicate zeros '0' ++ digits) (by simp) hall, ?_, rfl, ?_⟩
  · exact text_ofPlaces _ _ (by simp [hne])
  · have hzeros := Text.natOfDigits_zeros_append (zeros + 1) digits
    rw [List.replicate_succ, List.cons_append] at hzeros
    rw [value_decimal_ofPlaces, List.singleton_append, hzeros, List.length_append,
      List.length_replicate]
    congr 2
    omega

/-- The digits and zeros after them fill the places before the point. -/
theorem spelledInPlace_whole {n : Nat} (hlength : digits.length ≤ n + 1) :
    SpelledInPlace digits n
      (digits ++ List.replicate (n + 1 - digits.length) '0' ++ '.' :: ['0']) := by
  set zeros := n + 1 - digits.length with hzeros
  have hall : ∀ c ∈ (digits ++ List.replicate zeros '0') ++ ['0'], isAsciiDigit c = true := by
    intro c hc
    rcases List.mem_append.mp hc with hc | hc
    · rcases List.mem_append.mp hc with hc | hc
      · exact hdigits c hc
      · exact digit_of_mem_zeros hc
    · exact digit_of_mem_zeros (n := 1) hc
  refine ⟨ofPlaces (digits ++ List.replicate zeros '0') ['0'] (by simp [hne]) hall,
    ?_, rfl, ?_⟩
  · exact text_ofPlaces _ _ (by simp)
  · have hexp : (n : Int) + 1 - digits.length = (zeros : Int) := by omega
    have hvalue : natOfDigits (digits ++ List.replicate zeros '0' ++ ['0']) =
        natOfDigits digits * 10 ^ zeros * 10 := by
      rw [show ['0'] = List.replicate 1 '0' from rfl, Text.natOfDigits_append_zeros,
        Text.natOfDigits_append_zeros, Nat.pow_one]
    rw [value_decimal_ofPlaces, hexp, hvalue, zpow_natCast]
    push_cast
    simp

/-- No point follows the places. -/
theorem spelledInPlace_integer {n : Nat} (hlength : digits.length ≤ n + 1) :
    SpelledInPlace digits n (digits ++ List.replicate (n + 1 - digits.length) '0') := by
  set zeros := n + 1 - digits.length with hzeros
  have hall : ∀ c ∈ (digits ++ List.replicate zeros '0') ++ [], isAsciiDigit c = true := by
    intro c hc
    rw [List.append_nil] at hc
    rcases List.mem_append.mp hc with hc | hc
    · exact hdigits c hc
    · exact digit_of_mem_zeros hc
  refine ⟨ofPlaces (digits ++ List.replicate zeros '0') [] (by simp [hne]) hall, ?_, rfl, ?_⟩
  · simp [text, point, ofPlaces]
  · have hexp : (n : Int) + 1 - digits.length = (zeros : Int) := by omega
    rw [value_decimal_ofPlaces, List.append_nil, Text.natOfDigits_append_zeros, hexp, zpow_natCast]
    push_cast
    simp

/-- The point stands between the digits. -/
theorem spelledInPlace_split {n : Nat} (hlength : n + 1 < digits.length) :
    SpelledInPlace digits n (digits.take (n + 1) ++ '.' :: digits.drop (n + 1)) := by
  have hall : ∀ c ∈ digits.take (n + 1) ++ digits.drop (n + 1), isAsciiDigit c = true := by
    rwa [List.take_append_drop]
  have hdrop : digits.drop (n + 1) ≠ [] := by
    rw [Ne, List.drop_eq_nil_iff]
    omega
  refine ⟨ofPlaces (digits.take (n + 1)) (digits.drop (n + 1)) (by simp [hne]) hall, ?_, rfl, ?_⟩
  · exact text_ofPlaces _ _ hdrop
  · rw [value_decimal_ofPlaces, List.take_append_drop, List.length_drop]
    congr 2
    omega

/-- Digits that are written in place spell the number whose first digit
has the exponent `scale`. -/
theorem spelledInPlace (keepsPoint : Bool) (scale : Int) :
    SpelledInPlace digits scale (Layout.inPlace keepsPoint digits scale) := by
  cases scale with
  | negSucc zeros => exact spelledInPlace_negSucc hne hdigits zeros
  | ofNat n =>
    unfold Layout.inPlace
    dsimp only
    split
    · rename_i hdrop
      have hle := List.drop_eq_nil_iff.mp hdrop
      rw [List.length_append, List.length_replicate] at hle
      have hlength : digits.length ≤ n + 1 := by omega
      cases keepsPoint with
      | true => exact spelledInPlace_whole hne hdigits hlength
      | false => exact spelledInPlace_integer hne hdigits hlength
    · rename_i hdrop
      have hlt := List.length_pos_iff.mpr hdrop
      rw [List.length_drop, List.length_append, List.length_replicate] at hlt
      have hlength : n + 1 < digits.length := by omega
      have hpadded : digits ++ List.replicate (n + 1 - digits.length) '0' = digits := by
        rw [Nat.sub_eq_zero_of_le hlength.le, List.replicate_zero, List.append_nil]
      rw [hpadded]
      exact spelledInPlace_split hne hdigits hlength

end

/-- The exponent of a written number is read. -/
theorem exponent?_scientific (scale : Int) :
    Numeral.exponent? ('e' :: (if scale < 0 then '-' else '+') ::
      Text.ofNatPadded 10 2 scale.natAbs) = some scale := by
  set digits := Text.ofNatPadded 10 2 scale.natAbs with hpadded
  have hdigits : ∀ c ∈ digits, isAsciiDigit c = true := by
    intro c hc
    rcases List.mem_append.mp hc with hc | hc
    · exact digit_of_mem_zeros hc
    · exact Text.isAsciiDigit_of_mem_ofNat hc
  have hnumber : natOfDigits digits = scale.natAbs := by
    rw [hpadded, Text.ofNatPadded, Text.natOfDigits_zeros_append]
    exact Text.natOfDigits_ofNat scale.natAbs
  have hne : digits ≠ [] :=
    List.append_ne_nil_of_right_ne_nil _ (Text.ofNat_ne_nil scale.natAbs)
  have hsign : Numeral.IsSign (decide (scale < 0)) [if scale < 0 then '-' else '+'] := by
    by_cases hneg : scale < 0
    · rw [decide_eq_true hneg, if_pos hneg]
      exact .minus
    · rw [decide_eq_false hneg, if_neg hneg]
      exact .plus
  have hvalue : (if decide (scale < 0) then -(natOfDigits digits : Int) else natOfDigits digits) =
      scale := by
    rw [hnumber]
    simp only [decide_eq_true_eq]
    split <;> omega
  have hexponent := Numeral.IsExponent.some (Or.inl rfl) hsign hne hdigits
  rw [hvalue] at hexponent
  exact Numeral.exponent?_eq_some_iff.mpr hexponent

/-- Digits with an exponent spell the same number. -/
theorem exists_spelling_scientific {digits : Text} (hne : digits ≠ [])
    (hdigits : ∀ c ∈ digits, isAsciiDigit c = true) (scale : Int) :
    ∃ p : Spelling, p.text = Layout.scientific digits scale ∧ p.tail ≠ [] ∧
      p.decimal.value = natOfDigits digits * (10 : ℚ) ^ (scale + 1 - digits.length) := by
  obtain ⟨d, ds, rfl⟩ := List.exists_cons_of_ne_nil hne
  let p : Spelling :=
    { whole := [d]
      fraction := ds
      tail := 'e' :: (if scale < 0 then '-' else '+') :: Text.ofNatPadded 10 2 scale.natAbs
      exponent := scale
      whole_ne_nil := by simp
      digit_of_mem_whole := fun c hc => hdigits c (by simp_all)
      digit_of_mem_fraction := fun c hc => hdigits c (List.mem_cons_of_mem d hc)
      exponent?_tail := exponent?_scientific scale
      head?_tail := Or.inr rfl }
  refine ⟨p, ?_, by simp [p], ?_⟩
  · cases ds <;> rfl
  · have hexp : scale - ds.length = scale + 1 - (d :: ds).length := by
      rw [List.length_cons]
      omega
    simp only [decimal, Decimal.value, p, List.singleton_append, hexp]

/-! ## Written decimals -/

/-- The zeros at the end of the digits are given by their number. -/
theorem value_dropZeros (d : Decimal) :
    natOfDigits (Text.dropZeros d.digits) *
      (10 : ℚ) ^ (d.scale + 1 - (Text.dropZeros d.digits).length) = d.value := by
  obtain ⟨z, hz⟩ := Text.exists_eq_dropZeros d.digits
  have hcoefficient : d.coefficient = natOfDigits (Text.dropZeros d.digits) * 10 ^ z := by
    rw [← Text.natOfDigits_append_zeros, ← hz]
    exact (Text.natOfDigits_ofNat _).symm
  have hexp : d.scale + 1 - (Text.dropZeros d.digits).length = z + d.exponent := by
    have hlength := congrArg List.length hz
    rw [List.length_append, List.length_replicate] at hlength
    rw [Decimal.scale]
    omega
  rw [Decimal.value, hexp, zpow_add₀ (by norm_num), zpow_natCast, hcoefficient]
  push_cast
  ring

/-- A decimal is written as a spelling of its value, with an exponent
where its scale asks for one. -/
theorem exists_spelling_write (l : Layout) (d : Decimal) :
    ∃ p : Spelling, p.text = l.write d ∧ p.decimal.value = d.value ∧
      (p.tail = [] ↔ d.coefficient = 0 ∨ l.inPlaceFrom ≤ d.scale ∧ d.scale < l.inPlaceBelow) := by
  unfold Layout.write
  by_cases hd : d.coefficient = 0
  · have hzero : ∀ c ∈ ['0'], isAsciiDigit c = true := List.forall_mem_singleton.mpr rfl
    obtain ⟨p, htext, htail, hvalue⟩ := spelledInPlace (by simp) hzero l.keepsPoint 0
    refine ⟨p, ?_, ?_, by simp [htail, hd]⟩
    · rw [htext, if_pos hd]
      rfl
    · rw [hvalue, Decimal.value_eq_zero_iff.mpr hd]
      have : natOfDigits ['0'] = 0 := rfl
      simp [this]
  · have hne : Text.dropZeros d.digits ≠ [] := Text.dropZeros_ofNat_ne_nil hd
    have hdigits : ∀ c ∈ Text.dropZeros d.digits, isAsciiDigit c = true := fun c hc =>
      Text.isAsciiDigit_of_mem_ofNat (Text.mem_of_mem_dropZeros hc)
    have hvalue := value_dropZeros d
    rw [if_neg hd]
    dsimp only
    by_cases hscale : l.inPlaceFrom ≤ d.scale ∧ d.scale < l.inPlaceBelow
    · obtain ⟨p, htext, htail, hread⟩ := spelledInPlace hne hdigits l.keepsPoint d.scale
      refine ⟨p, ?_, hread.trans hvalue, by simp [htail, hscale]⟩
      rw [htext]
      exact (if_pos hscale).symm
    · obtain ⟨p, htext, htail, hread⟩ := exists_spelling_scientific hne hdigits d.scale
      refine ⟨p, ?_, hread.trans hvalue, by simp [htail, hd, hscale]⟩
      rw [htext]
      exact (if_neg hscale).symm

end Spelling

/-! ## Written numbers -/

namespace Binary64

/-- Between zero and 10^-4. -/
def IsTiny (x : Binary64) : Prop := 0 < x.magnitude ∧ x.magnitude < 1 / 10 ^ 4

theorem magnitude_pos_iff {x : Binary64} : 0 < x.magnitude ↔ x.units ≠ 0 := by
  have hpow : (0 : ℚ) < 2 ^ unitPlaces := by positivity
  rw [magnitude, div_pos_iff_of_pos_right hpow, Nat.cast_pos, Nat.pos_iff_ne_zero]

theorem isTiny_iff {x : Binary64} :
    x.IsTiny ↔ x.units ≠ 0 ∧ x.units * 10 ^ 4 < 2 ^ unitPlaces := by
  have hpow : (0 : ℚ) < 2 ^ unitPlaces := by positivity
  rw [IsTiny, magnitude_pos_iff, magnitude, div_lt_div_iff₀ hpow (by positivity), one_mul]
  exact and_congr_right' (by exact_mod_cast Iff.rfl)

instance (x : Binary64) : Decidable x.IsTiny := decidable_of_iff _ isTiny_iff.symm

/-- A whole number is the natural number of its digits, and has a minus
sign unless it is zero. -/
theorem exists_of_toInt? {x : Binary64} {n : Int} (h : x.toInt? = some n) :
    x.magnitude = n.natAbs ∧ (n < 0 → x.isNegative = true) ∧
      (x.isNegative = true → n < 0 ∨ x.units = 0) := by
  cases x with
  | nan => cases h
  | infinity s => cases h
  | finite s m k hc =>
    have hpow : (2 : ℚ) ^ unitPlaces ≠ 0 := by positivity
    have hpos : 0 < Nat.pow 2 unitPlaces := by
      rw [Nat.pow_eq]
      positivity
    unfold toInt? at h
    dsimp only at h
    split at h
    · rename_i hmod
      obtain ⟨q, hq⟩ := Nat.dvd_of_mod_eq_zero hmod
      have hunits : (finite s m k hc).units = Nat.pow 2 unitPlaces * q := hq
      rw [hq, Nat.mul_div_cancel_left q hpos] at h
      have hmagnitude : (finite s m k hc).magnitude = q := by
        rw [magnitude, hunits, Nat.pow_eq]
        push_cast
        rw [mul_comm, mul_div_assoc, div_self hpow, mul_one]
      cases s with
      | false =>
        obtain rfl : (q : Int) = n := by simpa using h
        exact ⟨by simpa using hmagnitude, fun hneg => by omega, fun hneg => by cases hneg⟩
      | true =>
        obtain rfl : -(q : Int) = n := by simpa using h
        refine ⟨by simpa using hmagnitude, fun _ => rfl, fun _ => ?_⟩
        rcases Nat.eq_zero_or_pos q with rfl | hq
        · exact Or.inr (by rw [hunits, Nat.mul_zero])
        · exact Or.inl (by omega)
    · cases h

/-- A whole number is zero, or at least one. -/
theorem not_isTiny_of_toInt? {x : Binary64} {n : Int} (h : x.toInt? = some n) : ¬x.IsTiny := by
  rintro ⟨hpos, hlt⟩
  rw [(exists_of_toInt? h).1] at hpos hlt
  have hone : (1 : ℚ) ≤ n.natAbs := by exact_mod_cast hpos
  have hsmall : (1 : ℚ) / 10 ^ 4 < 1 := by norm_num
  exact absurd (hlt.trans hsmall) (not_lt.mpr hone)

theorem units_ne_zero_of_toInt? {x : Binary64} (hx : x.isFinite = true)
    (h : x.toInt? = none) : x.units ≠ 0 := by
  intro hzero
  obtain ⟨s, m, k, hc, rfl⟩ := exists_eq_finite hx
  have hproduct : m * 2 ^ k = 0 := hzero
  simp [toInt?, hproduct] at h

/-- A sign that a number has, or that a zero has not, makes no
difference. -/
theorem equals_withSign {x : Binary64} {negative : Bool} (hx : x.isFinite = true)
    (h : negative = x.isNegative ∨ x.units = 0) : (x.withSign negative).equals x = true := by
  obtain ⟨s, m, k, hc, rfl⟩ := exists_eq_finite hx
  rcases h with rfl | hzero
  · simp [withSign, equals]
  · have hm : m = 0 := by
      rw [units_finite] at hzero
      exact (Nat.mul_eq_zero.mp hzero).resolve_right (by positivity)
    simp [withSign, equals, hm]

end Binary64

theorem Text.ofInt_of_neg {n : Int} (hn : n < 0) : Text.ofInt n = '-' :: Text.ofNat n.natAbs := by
  cases n with
  | ofNat n => exact absurd hn (by simp)
  | negSucc n => rfl

theorem Text.ofInt_of_nonneg {n : Int} (hn : ¬n < 0) : Text.ofInt n = Text.ofNat n.natAbs := by
  cases n with
  | ofNat n => rfl
  | negSucc n => exact absurd (Int.negSucc_lt_zero n) hn

namespace Spelling

/-- Every finite number is written as a spelling of its value, with a
minus sign only if it has one, and with an exponent exactly if it is
between zero and 10^-4. -/
theorem exists_spelling_plain {x : Binary64} (hx : x.isFinite = true) :
    ∃ (negative : Bool) (p : Spelling), x.plain = Binary64.signed negative p.text ∧
      (p.numeral negative).value = x.withSign negative ∧
      (negative = true → x.isNegative = true) ∧ (negative = x.isNegative ∨ x.units = 0) ∧
      (p.tail = [] ↔ ¬x.IsTiny) := by
  unfold Binary64.plain
  cases hwhole : x.toInt? with
  | some n =>
    obtain ⟨hmagnitude, hneg, hsign⟩ := Binary64.exists_of_toInt? hwhole
    refine ⟨decide (n < 0), ofNat n.natAbs, ?_, ?_, by simpa using hneg, ?_, ?_⟩
    · rw [text_ofNat]
      by_cases hn : n < 0
      · simp [Text.ofInt_of_neg hn, Binary64.signed, hn]
      · simp [Text.ofInt_of_nonneg hn, Binary64.signed, hn]
    · rw [value_numeral, ← Decimal.toBinary64_exact _ hx]
      refine Decimal.toBinary64_congr _ ?_
      rw [value_decimal_ofNat, Decimal.value_exact, hmagnitude]
    · by_cases hn : n < 0
      · exact Or.inl (by simp [hn, hneg hn])
      · cases hs : x.isNegative with
        | false => exact Or.inl (by simp [hn])
        | true => exact Or.inr ((hsign hs).resolve_left hn)
    · exact iff_of_true rfl (Binary64.not_isTiny_of_toInt? hwhole)
  | none =>
    obtain ⟨p, htext, hvalue, htail⟩ := exists_spelling_write .shown (Decimal.shortest x)
    have hunits := Binary64.units_ne_zero_of_toInt? hx hwhole
    refine ⟨x.isNegative, p, ?_, ?_, id, Or.inl rfl, ?_⟩
    · obtain ⟨s, m, k, hc, rfl⟩ := Binary64.exists_eq_finite hx
      rw [htext]
      rfl
    · rw [value_numeral, ← Decimal.toBinary64_shortest _ hx]
      exact Decimal.toBinary64_congr _ hvalue
    · have hleast : Layout.shown.inPlaceFrom = -4 := rfl
      have hmost : Layout.shown.inPlaceBelow = 16 := rfl
      rw [htail, hleast, hmost, Binary64.IsTiny, Binary64.magnitude_pos_iff,
        Decimal.le_scale_shortest_iff hunits]
      simp [Decimal.coefficient_shortest_ne_zero hunits, Decimal.scale_shortest_lt hx hwhole,
        hunits]

end Spelling
end MetricAudit
