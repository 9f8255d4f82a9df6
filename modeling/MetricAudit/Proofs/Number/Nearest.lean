/-
MetricAudit.Proofs.Number.Nearest — decimals correctly rounded.

`IsNearest negative q x` says what it is to round the number `q` with a
sign to the double `x`: `q` is less than half a step past the largest
double, no double is nearer than `x`, and an equally near one leaves `x`
the even significand. It mentions no digits and no algorithm.

There is at most one such double (`IsNearest.unique`): two of them would
be as far from `q` on either side, with no double between them; then the
significand of one is odd. And a decimal is rounded to it
(`isNearest_toBinary64_iff`), unless it is past the range; then it is
rounded to an infinity (`isFinite_toBinary64_iff`).
-/
import MetricAudit.Proofs.Number.Range

namespace MetricAudit

namespace Binary64

/-- The significand of a finite number. -/
def significand : Binary64 → Nat
  | .finite _ m _ _ => m
  | _ => 0

/-- The double `x` is the number `q`, which has no sign of its own, with a
sign and correctly rounded. -/
structure IsNearest (negative : Bool) (q : ℚ) (x : Binary64) : Prop where
  isFinite : x.isFinite = true
  isNegative : x.isNegative = negative
  inRange : q < pastLargest
  nearest : ∀ y : Binary64, y.isFinite = true → |q - x.magnitude| ≤ |q - y.magnitude|
  even : ∀ y : Binary64, y.isFinite = true → y.magnitude ≠ x.magnitude →
    |q - y.magnitude| = |q - x.magnitude| → Even x.significand

theorem magnitude_eq_iff {x y : Binary64} : x.magnitude = y.magnitude ↔ x.units = y.units := by
  have hpow : (2 : ℚ) ^ unitPlaces ≠ 0 := by positivity
  rw [magnitude, magnitude, div_left_inj' hpow, Nat.cast_inj]

theorem magnitude_lt_iff {x y : Binary64} : x.magnitude < y.magnitude ↔ x.units < y.units := by
  have hpow : (0 : ℚ) < 2 ^ unitPlaces := by positivity
  rw [magnitude, magnitude, div_lt_div_iff_of_pos_right hpow, Nat.cast_lt]

/-- A finite number is its magnitude and its sign. -/
theorem eq_of_magnitude_eq {x y : Binary64} (hx : x.isFinite = true) (hy : y.isFinite = true)
    (hsign : x.isNegative = y.isNegative) (h : x.magnitude = y.magnitude) : x = y := by
  have hsame := Decimal.withSign_congr x.isNegative hx hy (magnitude_eq_iff.mp h)
  obtain ⟨s, m, k, hc, rfl⟩ := exists_eq_finite hx
  obtain ⟨s', m', k', hc', rfl⟩ := exists_eq_finite hy
  obtain rfl : s = s' := hsign
  exact hsame

/-! ## There is one nearest double -/

/-- Between a double and the one with the next significand there is
none. -/
theorem succ_mul_le_of_lt {m k m' k' : Nat} (h : Canonical m k) (h' : Canonical m' k')
    (hlt : m * 2 ^ k < m' * 2 ^ k') : (m + 1) * 2 ^ k ≤ m' * 2 ^ k' := by
  obtain ⟨-, hnormal, -⟩ := h
  obtain ⟨hm', -, -⟩ := h'
  simp only [Nat.pow_eq] at hnormal hm'
  rcases Nat.lt_or_ge k' k with hless | hmore
  · -- of a smaller exponent there are only lesser doubles
    have hfull : 2 ^ 52 ≤ m := hnormal.resolve_right (by omega)
    have hle : m' * 2 ^ k' ≤ m * 2 ^ k := by
      calc m' * 2 ^ k'
          ≤ 2 ^ 53 * 2 ^ k' := Nat.mul_le_mul_right _ hm'.le
        _ = 2 ^ 52 * 2 ^ (k' + 1) := by ring
        _ ≤ 2 ^ 52 * 2 ^ k := Nat.mul_le_mul_left _ (Nat.pow_le_pow_right (by decide) hless)
        _ ≤ m * 2 ^ k := Nat.mul_le_mul_right _ hfull
    exact absurd hlt hle.not_gt
  · have hmultiple : m' * 2 ^ k' = m' * 2 ^ (k' - k) * 2 ^ k := by
      rw [Nat.mul_assoc, ← Nat.pow_add, Nat.sub_add_cancel hmore]
    rw [hmultiple] at hlt ⊢
    have hsteps : m < m' * 2 ^ (k' - k) := Nat.lt_of_mul_lt_mul_right hlt
    exact Nat.mul_le_mul_right _ hsteps

/-- A double above one with an even significand has an odd one, or another
double lies between the two. -/
theorem exists_between_of_even {x y : Binary64} (hx : x.isFinite = true) (hy : y.isFinite = true)
    (hxeven : Even x.significand) (hyeven : Even y.significand) (hlt : x.magnitude < y.magnitude) :
    ∃ z : Binary64, z.isFinite = true ∧ x.magnitude < z.magnitude ∧ z.magnitude < y.magnitude := by
  obtain ⟨s, m, k, h, rfl⟩ := exists_eq_finite hx
  obtain ⟨s', m', k', h', rfl⟩ := exists_eq_finite hy
  rw [magnitude_lt_iff] at hlt
  have heven : m % 2 = 0 := Nat.even_iff.mp hxeven
  have heven' : m' % 2 = 0 := Nat.even_iff.mp hyeven
  have hnext : Canonical (m + 1) k := by
    obtain ⟨hm, hnormal, hk⟩ := h
    simp only [Nat.pow_eq] at hm hnormal
    refine ⟨?_, ?_, hk⟩ <;> simp only [Nat.pow_eq] <;> omega
  refine ⟨.finite false (m + 1) k hnext, rfl, ?_, ?_⟩
  · rw [magnitude_lt_iff, units_finite, units_finite]
    exact Nat.mul_lt_mul_of_pos_right (Nat.lt_succ_self m) (Nat.two_pow_pos k)
  · rw [magnitude_lt_iff, units_finite, units_finite]
    refine lt_of_le_of_ne (succ_mul_le_of_lt h h' hlt) fun hsame => ?_
    have hz : (finite s (m + 1) k hnext) = .finite s m' k' h' :=
      eq_of_magnitude_eq rfl rfl rfl (magnitude_eq_iff.mpr hsame)
    obtain ⟨-, rfl, -⟩ := finite.inj hz
    omega

/-- **At most one double is the rounded number.** -/
theorem IsNearest.unique {negative : Bool} {q : ℚ} {x y : Binary64}
    (hx : IsNearest negative q x) (hy : IsNearest negative q y) : x = y := by
  have htie : |q - x.magnitude| = |q - y.magnitude| :=
    le_antisymm (hx.nearest y hy.isFinite) (hy.nearest x hx.isFinite)
  have hnone : ∀ {x y : Binary64}, IsNearest negative q x → IsNearest negative q y →
      |q - x.magnitude| = |q - y.magnitude| → ¬x.magnitude < y.magnitude := by
    intro x y hx hy htie hlt
    have hxeven := hx.even y hy.isFinite hlt.ne' htie.symm
    have hyeven := hy.even x hx.isFinite hlt.ne htie
    obtain ⟨z, hz, hxz, hzy⟩ :=
      exists_between_of_even hx.isFinite hy.isFinite hxeven hyeven hlt
    have hmiddle : q - x.magnitude = y.magnitude - q := by
      rcases abs_eq_abs.mp htie with h | h <;> linarith
    have hcloser : |q - z.magnitude| < |q - x.magnitude| := by
      rw [abs_of_nonneg (a := q - x.magnitude) (by linarith), abs_lt]
      constructor <;> linarith
    exact (hx.nearest z hz).not_gt hcloser
  refine eq_of_magnitude_eq hx.isFinite hy.isFinite (hx.isNegative.trans hy.isNegative.symm) ?_
  exact le_antisymm (not_lt.mp (hnone hy hx htie.symm)) (not_lt.mp (hnone hx hy htie))

/-! ## Quotients are rounded to it -/

theorem even_significand_pack {negative : Bool} {m k : Nat} (hm : Even m) :
    Even (pack negative m k).significand := by
  unfold pack
  split
  · exact hm
  · exact Even.zero

/-- Rounding up to 54 bits leaves the even significand 2^52. -/
theorem even_significand_ofUnits {negative : Bool} {a b : Nat}
    (h : Even (roundDiv a (b * 2 ^ exponentFor a b))) :
    Even (ofUnits negative a b).significand := by
  unfold ofUnits
  simp only [Nat.pow_eq]
  split
  · exact even_significand_pack h
  · exact even_significand_pack (by decide)

theorem isNegative_pack (negative : Bool) (m k : Nat) :
    (pack negative m k).isNegative = negative := by
  unfold pack
  split <;> rfl

theorem isNegative_ofUnits (negative : Bool) (a b : Nat) :
    (ofUnits negative a b).isNegative = negative := by
  unfold ofUnits
  dsimp only
  split <;> exact isNegative_pack ..

theorem abs_sub_magnitude (q : ℚ) (x : Binary64) :
    |q - x.magnitude| = |q * 2 ^ unitPlaces - x.units| / 2 ^ unitPlaces := by
  have hpow : (0 : ℚ) < 2 ^ unitPlaces := by positivity
  rw [magnitude, ← abs_of_pos hpow, ← abs_div, abs_of_pos hpow, sub_div,
    mul_div_cancel_right₀ _ hpow.ne']

/-- In range a quotient is correctly rounded. -/
theorem isNearest_ofRatio {negative : Bool} {a b : Nat} (hb : 0 < b)
    (hfinite : (ofRatio negative a b).isFinite = true) :
    IsNearest negative (a / b) (ofRatio negative a b) := by
  have hrange := (isFinite_ofRatio_iff hb).mp hfinite
  unfold ofRatio at hfinite ⊢
  rw [Nat.pow_eq] at hfinite ⊢
  have hpow : (0 : ℚ) < 2 ^ unitPlaces := by positivity
  have hscale : (a : ℚ) / b * 2 ^ unitPlaces = (a * 2 ^ unitPlaces : Nat) / b := by
    push_cast
    rw [mul_div_right_comm]
  generalize a * 2 ^ unitPlaces = c at *
  have hunits := units_ofUnits hfinite
  have hsign := isNegative_ofUnits negative c b
  have hsignificand : Even (roundDiv c (b * 2 ^ exponentFor c b)) →
      Even (ofUnits negative c b).significand := even_significand_ofUnits
  generalize ofUnits negative c b = x at *
  have hnear : ∀ y : Binary64, y.isFinite = true → y.magnitude ≠ x.magnitude →
      |(a : ℚ) / b - x.magnitude| ≤ |(a : ℚ) / b - y.magnitude| ∧
        (|(a : ℚ) / b - y.magnitude| = |(a : ℚ) / b - x.magnitude| → Even x.significand) := by
    intro y hy hne
    obtain ⟨s, m, k, hc, rfl⟩ := exists_eq_finite hy
    rw [Ne, magnitude_eq_iff, hunits, units_finite] at hne
    obtain ⟨hle, heven⟩ := abs_sub_rounded_le c hb hc.1 hne
    rw [abs_sub_magnitude, abs_sub_magnitude, hscale, hunits, units_finite,
      div_le_div_iff_of_pos_right hpow, div_left_inj' hpow.ne']
    exact ⟨hle, fun htie => hsignificand (heven htie)⟩
  refine ⟨hfinite, hsign, hrange, fun y hy => ?_, fun y hy hne => (hnear y hy hne).2⟩
  by_cases hsame : y.magnitude = x.magnitude
  · rw [hsame]
  · exact (hnear y hy hsame).1

/-! ## Decimals are rounded to it -/

/-- A number is rounded to zero if no other double is nearer. -/
theorem isNearest_zero (negative : Bool) {q : ℚ} (hnonneg : 0 ≤ q)
    (hsmall : 2 * q ≤ 1 / 2 ^ unitPlaces) : IsNearest negative q (zero negative) := by
  have hmagnitude : (zero negative).magnitude = 0 := by
    simp [magnitude, zero, units]
  have hfar : ∀ y : Binary64, |q - (zero negative).magnitude| ≤ |q - y.magnitude| := by
    intro y
    rw [hmagnitude, sub_zero, abs_of_nonneg hnonneg]
    rcases Nat.eq_zero_or_pos y.units with hzero | hpos
    · rw [magnitude, hzero, Nat.cast_zero, zero_div, sub_zero, abs_of_nonneg hnonneg]
    · have hunit : 1 / 2 ^ unitPlaces ≤ y.magnitude := by
        unfold magnitude
        gcongr
        exact_mod_cast hpos
      rw [abs_of_nonpos] <;> linarith
  refine ⟨rfl, rfl, ?_, fun y _ => hfar y, fun _ _ _ _ => Even.zero⟩
  have hunit : (1 : ℚ) / 2 ^ unitPlaces ≤ 1 :=
    div_le_one_of_le₀ (one_le_pow₀ one_le_two) (by positivity)
  have hpast : (1 : ℚ) ≤ pastLargest := by
    exact_mod_cast (by decide +kernel : 1 ≤ pastLargest)
  linarith

end Binary64

namespace Decimal

open Binary64 (IsNearest pastLargest unitPlaces)

/-- A decimal is rounded to an infinity if it is past the range of the
doubles, and correctly if it is not. -/
theorem toBinary64_cases (negative : Bool) (d : Decimal) :
    ((d.toBinary64 negative).isFinite = false ∧ (pastLargest : ℚ) ≤ d.value) ∨
      IsNearest negative d.value (d.toBinary64 negative) := by
  by_cases hd : d.coefficient = 0
  · right
    rw [toBinary64, if_pos hd, value_eq_zero_iff.mpr hd]
    exact Binary64.isNearest_zero negative le_rfl (by rw [mul_zero]; positivity)
  · by_cases hmost : 310 ≤ d.scale
    · left
      have hborder : pastLargest ≤ 10 ^ 310 := by decide +kernel
      have hvalue := (zpow_le_value_iff hd 310).mpr hmost
      rw [toBinary64, if_neg hd, if_pos hmost]
      refine ⟨rfl, le_trans ?_ hvalue⟩
      exact_mod_cast hborder
    · by_cases hleast : d.scale < -330
      · right
        have hunit : 2 * 2 ^ unitPlaces < 10 ^ 330 := by decide +kernel
        have hvalue : d.value < 10 ^ (-330 : Int) := by
          rwa [← not_le, zpow_le_value_iff hd, not_le]
        rw [toBinary64, if_neg hd, if_neg hmost, if_pos hleast]
        refine Binary64.isNearest_zero negative d.value_nonneg (le_of_lt ?_)
        calc 2 * d.value
            < 2 * 10 ^ (-330 : Int) := by linarith
          _ = 2 / 10 ^ 330 := by rw [zpow_neg, div_eq_mul_inv, ← zpow_natCast, Nat.cast_ofNat]
          _ ≤ 1 / 2 ^ unitPlaces := by
              rw [div_le_div_iff₀ (by positivity) (by positivity), one_mul]
              exact_mod_cast hunit.le
      · rw [toBinary64_eq_ofRatio negative hd (by omega) (by omega), value_eq_div]
        cases hfinite : (Binary64.ofRatio negative d.numerator d.denominator).isFinite with
        | true => exact Or.inr (Binary64.isNearest_ofRatio d.denominator_pos hfinite)
        | false =>
          have hpast := mt (Binary64.isFinite_ofRatio_iff d.denominator_pos).mpr
            (Bool.eq_false_iff.mp hfinite)
          exact Or.inl ⟨rfl, not_lt.mp hpast⟩

/-- A decimal has a double up to half a step past the largest one. -/
theorem isFinite_toBinary64_iff {negative : Bool} {d : Decimal} :
    (d.toBinary64 negative).isFinite = true ↔ d.value < pastLargest := by
  rcases toBinary64_cases negative d with ⟨hinfinite, hpast⟩ | hnear
  · exact iff_of_false (by simp [hinfinite]) hpast.not_gt
  · exact iff_of_true hnear.isFinite hnear.inRange

/-- **A decimal is correctly rounded**: a double is the rounded number
exactly if it is the finite one that the decimal is given. -/
theorem isNearest_toBinary64_iff {negative : Bool} {d : Decimal} {x : Binary64} :
    IsNearest negative d.value x ↔
      (d.toBinary64 negative).isFinite = true ∧ d.toBinary64 negative = x := by
  rcases toBinary64_cases negative d with ⟨hinfinite, hpast⟩ | hnear
  · refine iff_of_false (fun h => hpast.not_gt h.inRange) ?_
    simp [hinfinite]
  · constructor
    · exact fun h => ⟨hnear.isFinite, hnear.unique h⟩
    · rintro ⟨-, rfl⟩
      exact hnear

end Decimal
end MetricAudit
