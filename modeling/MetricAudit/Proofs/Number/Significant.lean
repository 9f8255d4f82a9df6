/-
MetricAudit.Proofs.Number.Significant — numbers in few significant digits.

A decimal of at most `n` significant digits has a coefficient below 10^n.
Of these `Decimal.rounded` picks one that is nearest to a given decimal
(`abs_sub_value_rounded_le`).

Written in so few digits a double may read back as another one.
`isNearest_rounded_iff` says when it does not: if some decimal of so few
digits is rounded to it at all, whichever that is. What is nearest to the
double lies between it and that decimal, or as near on the other side. In
the first case nothing changes, for what is rounded to a double is an
interval (`IsNearest.of_between`). In the second case the two decimals are
further apart than the step of the double allows (`value_div_le_sub`),
unless it is one of the least doubles, and these have equal steps on both
sides (`IsNearest.of_nearer`).
-/
import MetricAudit.Proofs.Number.Nearest

namespace MetricAudit

namespace Binary64

/-! ## What is rounded to a double -/

section
variable {negative : Bool} {q q' : ℚ} {x : Binary64}

theorem magnitude_lt_pastLargest (hx : x.isFinite = true) : x.magnitude < pastLargest := by
  have hself : ((Decimal.exact x).toBinary64 false).isFinite = true := by
    rw [Decimal.toBinary64_exact false hx, isFinite_withSign, hx]
  rw [← Decimal.value_exact]
  exact Decimal.isFinite_toBinary64_iff.mp hself

/-- What lies between a double and a number that is rounded to it is
rounded to it, too. -/
theorem IsNearest.of_between (h : IsNearest negative q x)
    (hbetween : |q - x.magnitude| = |q - q'| + |q' - x.magnitude|) : IsNearest negative q' x := by
  have htriangle : ∀ y : Binary64, |q - y.magnitude| ≤ |q - q'| + |q' - y.magnitude| :=
    fun y => abs_sub_le q q' y.magnitude
  refine ⟨h.isFinite, h.isNegative, ?_, fun y hy => ?_, fun y hy hne htie => ?_⟩
  · have hlargest := magnitude_lt_pastLargest h.isFinite
    have hrange := h.inRange
    by_contra hpast
    rw [not_lt] at hpast
    rw [abs_of_nonpos (a := q - q') (by linarith),
      abs_of_nonneg (a := q' - x.magnitude) (by linarith)] at hbetween
    rcases abs_cases (q - x.magnitude) with ⟨habs, -⟩ | ⟨habs, -⟩ <;> linarith
  · linarith [h.nearest y hy, htriangle y]
  · have hnear := h.nearest y hy
    exact h.even y hy hne (le_antisymm (by linarith [htriangle y]) hnear)

/-- The numbers of units up to 2^53 are those of doubles. -/
theorem exists_units_eq {u : Nat} (hu : u ≤ 2 ^ 53) :
    ∃ y : Binary64, y.isFinite = true ∧ y.units = u := by
  rcases Nat.lt_or_eq_of_le hu with hlt | rfl
  · exact ⟨.finite false u 0 ⟨hlt, Or.inr rfl, Nat.zero_le _⟩, rfl, Nat.mul_one u⟩
  · exact ⟨.finite false (2 ^ 52) 1 (by decide), rfl, rfl⟩

/-- A double of fewer units than 2^53 is its units, one by one. -/
theorem significand_eq_units (hx : x.isFinite = true) (hsmall : x.units < 2 ^ 53) :
    x.significand = x.units := by
  obtain ⟨s, m, k, h, rfl⟩ := exists_eq_finite hx
  rw [units_finite] at hsmall ⊢
  rcases Nat.eq_zero_or_pos k with rfl | hpos
  · exact (Nat.mul_one m).symm
  · have hfull : 2 ^ 52 ≤ m := h.2.1.resolve_right hpos.ne'
    have hstep : 2 ^ 1 ≤ 2 ^ k := Nat.pow_le_pow_right two_pos hpos
    have hmany := Nat.mul_le_mul hfull hstep
    omega

/-- Distances in units. -/
theorem abs_sub_units (q : ℚ) (x : Binary64) :
    |q * 2 ^ unitPlaces - x.units| = |q - x.magnitude| * 2 ^ unitPlaces := by
  rw [abs_sub_magnitude, div_mul_cancel₀ _ (by positivity)]

/-- A number is half a unit away at most if the whole numbers next to `u`
are no nearer to it than `u` is. -/
theorem abs_sub_le_half {r : ℚ} {u : Nat} (hr : 0 ≤ r)
    (habove : |r - u| ≤ |r - (u + 1 : Nat)|) (hbelow : |r - u| ≤ |r - (u - 1 : Nat)|) :
    |r - u| ≤ 1 / 2 := by
  rw [Nat.cast_add_one] at habove
  rw [abs_le]
  constructor
  · rcases Nat.eq_zero_or_pos u with rfl | hpos
    · rw [Nat.cast_zero, sub_zero]
      linarith
    · rw [Nat.cast_sub hpos, Nat.cast_one] at hbelow
      by_contra hfar
      rw [not_le] at hfar
      rw [abs_of_neg (a := r - u) (by linarith)] at hbelow
      rcases abs_cases (r - (u - 1)) with ⟨habs, -⟩ | ⟨habs, -⟩ <;> linarith
  · by_contra hfar
    rw [not_le] at hfar
    rw [abs_of_pos (a := r - u) (by linarith)] at habove
    rcases abs_cases (r - (u + 1)) with ⟨habs, -⟩ | ⟨habs, -⟩ <;> linarith

/-- What is rounded to one of the least doubles is at most half a unit
away, and an even number of units if it is half a unit. -/
theorem IsNearest.abs_sub_units_lt_or (h : IsNearest negative q x) (hq : 0 ≤ q)
    (hsmall : x.units < 2 ^ 53) :
    |q * 2 ^ unitPlaces - x.units| < 1 / 2 ∨
      |q * 2 ^ unitPlaces - x.units| = 1 / 2 ∧ Even x.units := by
  have hpow : (0 : ℚ) < 2 ^ unitPlaces := by positivity
  have hunits := significand_eq_units h.isFinite hsmall
  -- the doubles next to it are a unit away
  obtain ⟨above, habove, hmore⟩ := exists_units_eq (u := x.units + 1) hsmall
  obtain ⟨below, hbelow, hless⟩ := exists_units_eq (u := x.units - 1) (by omega)
  have hnear : ∀ y : Binary64, y.isFinite = true →
      |q * 2 ^ unitPlaces - x.units| ≤ |q * 2 ^ unitPlaces - y.units| := by
    intro y hy
    rw [abs_sub_units, abs_sub_units, mul_le_mul_iff_left₀ hpow]
    exact h.nearest y hy
  have heven : ∀ y : Binary64, y.isFinite = true → y.units ≠ x.units →
      |q * 2 ^ unitPlaces - y.units| = |q * 2 ^ unitPlaces - x.units| → Even x.units := by
    intro y hy hne htie
    rw [abs_sub_units, abs_sub_units, mul_left_inj' hpow.ne'] at htie
    rw [← hunits]
    exact h.even y hy (mt magnitude_eq_iff.mp hne) htie
  have hle := abs_sub_le_half (by positivity) (hmore ▸ hnear above habove)
    (hless ▸ hnear below hbelow)
  refine (lt_or_eq_of_le hle).imp_right fun hhalf => ⟨hhalf, ?_⟩
  rcases (abs_eq (by norm_num)).mp hhalf with hup | hdown
  · refine heven above habove (by omega) ?_
    rw [hhalf, hmore, Nat.cast_add_one, abs_of_nonpos] <;> linarith
  · have hpos : 1 ≤ x.units := by
      by_contra hzero
      have hscaled : 0 ≤ q * 2 ^ unitPlaces := by positivity
      rw [show x.units = 0 by omega, Nat.cast_zero, sub_zero] at hdown
      linarith
    refine heven below hbelow (by omega) ?_
    rw [hhalf, hless, Nat.cast_sub hpos, Nat.cast_one, abs_of_nonneg] <;> linarith

/-- What is so near to a finite number is rounded to it. -/
theorem isNearest_of_abs_sub_units (hx : x.isFinite = true) (hsmall : x.units < 2 ^ 53)
    (h : |q * 2 ^ unitPlaces - x.units| < 1 / 2 ∨
      |q * 2 ^ unitPlaces - x.units| = 1 / 2 ∧ Even x.units) :
    IsNearest x.isNegative q x := by
  have hpow : (0 : ℚ) < 2 ^ unitPlaces := by positivity
  have hle : |q * 2 ^ unitPlaces - x.units| ≤ 1 / 2 := h.elim le_of_lt fun h => h.1.le
  -- other doubles are at least a unit from it
  have hapart : ∀ y : Binary64, y.units ≠ x.units → 1 ≤ |q * 2 ^ unitPlaces - y.units| +
      |q * 2 ^ unitPlaces - x.units| := by
    intro y hne
    have hint : 1 ≤ |(y.units : ℤ) - x.units| := Int.one_le_abs (by omega)
    have hrat : (1 : ℚ) ≤ |(y.units : ℚ) - x.units| := by exact_mod_cast hint
    have htriangle := abs_sub_le (y.units : ℚ) (q * 2 ^ unitPlaces) x.units
    rw [abs_sub_comm (y.units : ℚ) (q * 2 ^ unitPlaces)] at htriangle
    exact hrat.trans htriangle
  refine ⟨hx, rfl, ?_, fun y hy => ?_, fun y hy hne htie => ?_⟩
  · have hfew : (x.units : ℚ) + 1 ≤ 2 ^ 53 := by exact_mod_cast hsmall
    have hplaces : (2 : ℚ) ^ 53 ≤ 2 ^ unitPlaces := pow_le_pow_right₀ one_le_two (by decide)
    have hpast : (1 : ℚ) ≤ pastLargest := by
      exact_mod_cast (by decide +kernel : 1 ≤ pastLargest)
    refine lt_of_lt_of_le ?_ hpast
    have hbelow := (abs_le.mp hle).2
    rw [← mul_lt_mul_iff_left₀ hpow, one_mul]
    linarith
  · rw [← mul_le_mul_iff_left₀ hpow, ← abs_sub_units, ← abs_sub_units]
    by_cases hsame : y.units = x.units
    · rw [hsame]
    · linarith [hapart y hsame]
  · rw [significand_eq_units hx hsmall]
    rw [← mul_left_inj' hpow.ne', ← abs_sub_units, ← abs_sub_units] at htie
    have hhalf := hapart y (mt magnitude_eq_iff.mpr hne)
    exact (h.resolve_left fun hlt => by linarith).2

/-- Around the least doubles all steps are equal: what is no further from
one than a number that is rounded to it is rounded to it, too. -/
theorem IsNearest.of_nearer (h : IsNearest negative q x) (hq : 0 ≤ q)
    (hsmall : x.units < 2 ^ 53) (hnear : |q' - x.magnitude| ≤ |q - x.magnitude|) :
    IsNearest negative q' x := by
  have hpow : (0 : ℚ) < 2 ^ unitPlaces := by positivity
  have hunits : |q' * 2 ^ unitPlaces - x.units| ≤ |q * 2 ^ unitPlaces - x.units| := by
    rw [abs_sub_units, abs_sub_units, mul_le_mul_iff_left₀ hpow]
    exact hnear
  rw [← h.isNegative]
  refine isNearest_of_abs_sub_units h.isFinite hsmall ?_
  rcases h.abs_sub_units_lt_or hq hsmall with hlt | ⟨hhalf, heven⟩
  · exact Or.inl (hunits.trans_lt hlt)
  · exact (lt_or_eq_of_le (hunits.trans_eq hhalf)).imp_right fun heq => ⟨heq, heven⟩

/-- From 2^52 units on a quotient is rounded by half a step at most. -/
theorem abs_sub_rounded_le_div {a b : Nat} (hb : 0 < b) (hfull : 2 ^ 52 ≤ rounded a b) :
    |(a : ℚ) / b - rounded a b| ≤ rounded a b / 2 ^ 53 := by
  have hsignificand : 2 ^ 52 ≤ roundDiv a (b * 2 ^ exponentFor a b) := by
    by_cases he : exponentFor a b = 0
    · rw [rounded, he, pow_zero, Nat.mul_one, Nat.mul_one] at hfull
      rwa [he, pow_zero, Nat.mul_one]
    · exact le_significand he
  unfold rounded at hfull ⊢
  generalize exponentFor a b = e at *
  have hround := abs_div_sub_roundDiv a (b := b * 2 ^ e) (by positivity)
  generalize roundDiv a (b * 2 ^ e) = m at *
  have hhalf : |(a : ℚ) / b / 2 ^ e - m| ≤ 1 / 2 := by
    rw [div_div]
    exact_mod_cast hround.elim le_of_lt fun h => h.1.le
  have hm : (2 : ℚ) ^ 52 ≤ m := by exact_mod_cast hsignificand
  calc |(a : ℚ) / b - (m * 2 ^ e : Nat)|
      = |(a : ℚ) / b / 2 ^ e - m| * 2 ^ e := abs_sub_steps _ m e
    _ ≤ m / 2 ^ 53 * 2 ^ e := by
        gcongr
        exact hhalf.trans (by linarith)
    _ = (m * 2 ^ e : Nat) / 2 ^ 53 := by
        push_cast
        ring

/-- So is what is rounded to a double of as many units. -/
theorem IsNearest.abs_sub_le {a b : Nat} (h : IsNearest negative (a / b) x) (hb : 0 < b)
    (hfull : 2 ^ 52 ≤ x.units) : |(a : ℚ) / b - x.magnitude| ≤ x.magnitude / 2 ^ 53 := by
  have hfinite : (ofRatio negative a b).isFinite = true := (isFinite_ofRatio_iff hb).mpr h.inRange
  obtain rfl := h.unique (isNearest_ofRatio hb hfinite)
  have hscale : (a : ℚ) / b * 2 ^ unitPlaces = (a * 2 ^ unitPlaces : Nat) / b := by
    push_cast
    rw [mul_div_right_comm]
  rw [abs_sub_magnitude, magnitude, hscale, div_right_comm]
  unfold ofRatio at hfinite hfull ⊢
  rw [Nat.pow_eq] at hfinite hfull ⊢
  rw [units_ofUnits hfinite] at hfull ⊢
  generalize a * 2 ^ unitPlaces = c at *
  exact div_le_div_of_nonneg_right (abs_sub_rounded_le_div hb hfull) (by positivity)

end
end Binary64

namespace Decimal

open Binary64 (IsNearest roundDiv unitPlaces)

/-! ## Decimals of few digits -/

/-- Distances from the multiples of a power of ten. -/
theorem abs_value_sub_zpow (d : Decimal) (n j : Nat) :
    |d.value - j * (10 : ℚ) ^ (d.exponent + n)| =
      |(d.coefficient : ℚ) / (10 ^ n : Nat) - j| * (10 : ℚ) ^ (d.exponent + n) := by
  have hstep : (0 : ℚ) < (10 : ℚ) ^ (d.exponent + n) := by positivity
  have hvalue : d.value = (d.coefficient : ℚ) / (10 ^ n : Nat) * (10 : ℚ) ^ (d.exponent + n) := by
    rw [value, zpow_add₀ (by norm_num), zpow_natCast]
    push_cast
    field_simp
  rw [hvalue, ← sub_mul, abs_mul, abs_of_pos hstep]

/-- No multiple of the step to which a decimal is rounded is nearer to
it. -/
theorem abs_sub_value_rounded_le_zpow (d : Decimal) (n j : Nat) :
    |d.value - (d.rounded n).value| ≤
      |d.value - j * (10 : ℚ) ^ (d.exponent + (d.digits.length - n : Nat))| := by
  have hrounded : (d.rounded n).value = roundDiv d.coefficient (10 ^ (d.digits.length - n)) *
      (10 : ℚ) ^ (d.exponent + (d.digits.length - n : Nat)) := rfl
  rw [hrounded, abs_value_sub_zpow, abs_value_sub_zpow]
  refine mul_le_mul_of_nonneg_right ?_ (by positivity)
  by_cases hj : j = roundDiv d.coefficient (10 ^ (d.digits.length - n))
  · rw [hj]
  · exact (Binary64.abs_div_sub_roundDiv_le d.coefficient (by positivity) hj).1

/-- A decimal is a multiple of every power of ten up to its own. -/
theorem exists_value_eq_mul_zpow (d : Decimal) {k : Int} (hk : k ≤ d.exponent) :
    ∃ a : Nat, d.value = a * (10 : ℚ) ^ k := by
  obtain ⟨j, hj⟩ := Int.le.dest hk
  refine ⟨d.coefficient * 10 ^ j, ?_⟩
  rw [value, ← hj, zpow_add₀ (by norm_num), zpow_natCast]
  push_cast
  ring

theorem value_le_mul_zpow {d : Decimal} {n : Nat} (hd : d.coefficient ≤ 10 ^ n) :
    d.value ≤ 10 ^ n * (10 : ℚ) ^ d.exponent := by
  have hd' : (d.coefficient : ℚ) ≤ 10 ^ n := by exact_mod_cast hd
  unfold value
  gcongr

/-- Of so many digits and a lesser power of ten a decimal does not exceed
the least one of this power with all digits. -/
theorem value_le_of_exponent_lt {e : Decimal} {n : Nat} {k : Int} (hn : 0 < n)
    (he : e.coefficient ≤ 10 ^ n) (hk : e.exponent < k) :
    e.value ≤ (10 ^ (n - 1) : Nat) * (10 : ℚ) ^ k := by
  calc e.value
      ≤ 10 ^ n * (10 : ℚ) ^ e.exponent := value_le_mul_zpow he
    _ ≤ 10 ^ n * (10 : ℚ) ^ (k - 1) := by
        gcongr
        · norm_num
        · omega
    _ = (10 ^ (n - 1) : Nat) * (10 : ℚ) ^ k := by
        rw [zpow_sub_one₀ (by norm_num), ← Nat.sub_add_cancel hn, pow_succ]
        push_cast
        field_simp

/-- A decimal of more digits reaches that one. -/
theorem le_value_of_length {d : Decimal} {n dropped : Nat} (hn : 0 < n)
    (hlength : d.digits.length = n + dropped) (hpos : 0 < dropped) :
    (10 ^ (n - 1) : Nat) * (10 : ℚ) ^ (d.exponent + dropped) ≤ d.value := by
  have hd : d.coefficient ≠ 0 := by
    intro hzero
    have hone : d.digits.length = 1 := by
      rw [digits, hzero]
      rfl
    omega
  have hscale := (zpow_le_value_iff hd d.scale).mpr le_rfl
  have hexp : d.scale = (n - 1 : Nat) + (d.exponent + dropped) := by
    rw [scale]
    omega
  rw [hexp, zpow_add₀ (by norm_num), zpow_natCast] at hscale
  exact_mod_cast hscale

/-- **Of the decimals of so many digits none is nearer than the rounded
one.** -/
theorem abs_sub_value_rounded_le (d e : Decimal) {n : Nat} (hn : 0 < n)
    (he : e.coefficient ≤ 10 ^ n) :
    |d.value - (d.rounded n).value| ≤ |d.value - e.value| := by
  have hgrid := abs_sub_value_rounded_le_zpow d n
  generalize hdropped : d.digits.length - n = dropped at hgrid
  rcases Nat.eq_zero_or_pos dropped with rfl | hpos
  · -- the decimal has no more digits itself
    have hself := hgrid d.coefficient
    rw [Nat.cast_zero, add_zero] at hself
    exact hself.trans (by simp [value])
  · rcases le_or_gt (d.exponent + dropped) e.exponent with hcoarse | hfine
    · obtain ⟨j, hj⟩ := e.exists_value_eq_mul_zpow hcoarse
      rw [hj]
      exact hgrid j
    · -- a multiple of the step lies between the two
      have hlow := value_le_of_exponent_lt hn he hfine
      have hreach := le_value_of_length (d := d) hn (by omega) hpos
      calc |d.value - (d.rounded n).value|
          ≤ |d.value - (10 ^ (n - 1) : Nat) * (10 : ℚ) ^ (d.exponent + dropped)| := hgrid _
        _ = d.value - (10 ^ (n - 1) : Nat) * (10 : ℚ) ^ (d.exponent + dropped) :=
            abs_of_nonneg (sub_nonneg.mpr hreach)
        _ ≤ d.value - e.value := sub_le_sub_left hlow _
        _ = |d.value - e.value| := (abs_of_nonneg (sub_nonneg.mpr (hlow.trans hreach))).symm

theorem coefficient_rounded_le (d : Decimal) (n : Nat) :
    (d.rounded n).coefficient ≤ 10 ^ n := by
  have hlt : d.coefficient < 10 ^ d.digits.length := by
    rcases Nat.eq_zero_or_pos d.coefficient with hzero | hpos
    · rw [hzero]
      positivity
    · exact not_le.mp fun hle =>
        lt_irrefl _ ((Text.pow_le_iff_lt_length hpos.ne').mp hle)
  have hfloor : d.coefficient / 10 ^ (d.digits.length - n) < 10 ^ n := by
    rw [Nat.div_lt_iff_lt_mul (by positivity), ← pow_add]
    exact hlt.trans_le (Nat.pow_le_pow_right (by decide) (by omega))
  exact (Binary64.roundDiv_le_succ _ _).trans hfloor

/-- A rounded decimal has at most as many digits as it is rounded to: if
it is rounded up to one more, the last is a zero. -/
theorem exists_coefficient_lt_value_rounded (d : Decimal) {n : Nat} (hn : 0 < n) :
    ∃ e : Decimal, e.coefficient < 10 ^ n ∧ e.value = (d.rounded n).value := by
  rcases Nat.lt_or_eq_of_le (coefficient_rounded_le d n) with hlt | hfull
  · exact ⟨d.rounded n, hlt, rfl⟩
  · refine ⟨⟨1, n + (d.rounded n).exponent⟩, Nat.one_lt_pow hn.ne' (by decide), ?_⟩
    rw [value, value, hfull, zpow_add₀ (by norm_num), zpow_natCast]
    push_cast
    ring

/-- Two decimals are at least a step of the lesser power of ten apart. -/
theorem zpow_le_sub {d e : Decimal} {k : Int} (hd : k ≤ d.exponent) (he : k ≤ e.exponent)
    (hlt : d.value < e.value) : (10 : ℚ) ^ k ≤ e.value - d.value := by
  have hpow : (0 : ℚ) < (10 : ℚ) ^ k := by positivity
  obtain ⟨a, ha⟩ := d.exists_value_eq_mul_zpow hd
  obtain ⟨b, hb⟩ := e.exists_value_eq_mul_zpow he
  rw [ha, hb, mul_lt_mul_iff_left₀ hpow, Nat.cast_lt] at hlt
  have hone : (a : ℚ) + 1 ≤ b := by exact_mod_cast hlt
  rw [ha, hb, ← sub_mul]
  exact le_mul_of_one_le_left hpow.le (by linarith)

/-- Two decimals of so many digits are not close to each other. -/
theorem value_div_le_sub {d e : Decimal} {n : Nat} (hd : d.coefficient ≤ 10 ^ n)
    (he : e.coefficient ≤ 10 ^ n) (hlt : d.value < e.value) :
    d.value / 10 ^ n ≤ e.value - d.value := by
  rw [div_le_iff₀' (by positivity)]
  rcases le_total d.exponent e.exponent with hle | hle
  · calc d.value
        ≤ 10 ^ n * (10 : ℚ) ^ d.exponent := value_le_mul_zpow hd
      _ ≤ 10 ^ n * (e.value - d.value) := by
          gcongr
          exact zpow_le_sub le_rfl hle hlt
  · calc d.value
        ≤ e.value := hlt.le
      _ ≤ 10 ^ n * (10 : ℚ) ^ e.exponent := value_le_mul_zpow he
      _ ≤ 10 ^ n * (e.value - d.value) := by
          gcongr
          exact zpow_le_sub hle le_rfl hlt

end Decimal

/-! ## Doubles of few digits -/

namespace Binary64

open Decimal (abs_sub_value_rounded_le exists_coefficient_lt_value_rounded value_div_le_sub)

/-- Some decimal of at most `n` significant digits is rounded to the
number. -/
def HasDigits (n : Nat) (x : Binary64) : Prop :=
  ∃ d : Decimal, d.coefficient < 10 ^ n ∧ IsNearest x.isNegative d.value x

/-- The number has at most `n` significant digits, and none of these is
nearer to the magnitude of the double. -/
structure IsRounded (n : Nat) (x : Binary64) (q : ℚ) : Prop where
  hasDigits : ∃ d : Decimal, d.coefficient < 10 ^ n ∧ d.value = q
  nearest : ∀ d : Decimal, d.coefficient < 10 ^ n → |x.magnitude - q| ≤ |x.magnitude - d.value|

theorem isRounded_rounded (x : Binary64) {n : Nat} (hpos : 0 < n) :
    x.IsRounded n ((Decimal.exact x).rounded n).value := by
  refine ⟨exists_coefficient_lt_value_rounded _ hpos, fun d hd => ?_⟩
  rw [← Decimal.value_exact]
  exact abs_sub_value_rounded_le _ d hpos hd.le

/-- A number no further from a double than another one lies between the
two, unless they lie on both sides of the double. -/
theorem abs_sub_eq_add_or_sides {q q' t : ℚ} (h : |q' - t| ≤ |q - t|) :
    |q - t| = |q - q'| + |q' - t| ∨ q < t ∧ t < q' ∨ q' < t ∧ t < q := by
  rcases lt_trichotomy q' t with hlow | rfl | hhigh
  · rcases lt_or_ge t q with hq | hq
    · exact Or.inr (Or.inr ⟨hlow, hq⟩)
    · rw [abs_of_neg (sub_neg.mpr hlow), abs_of_nonpos (sub_nonpos.mpr hq)] at h
      left
      rw [abs_of_neg (sub_neg.mpr hlow), abs_of_nonpos (sub_nonpos.mpr hq),
        abs_of_nonpos (a := q - q')] <;> linarith
  · simp
  · rcases lt_or_ge q t with hq | hq
    · exact Or.inr (Or.inl ⟨hq, hhigh⟩)
    · rw [abs_of_pos (sub_pos.mpr hhigh), abs_of_nonneg (sub_nonneg.mpr hq)] at h
      left
      rw [abs_of_pos (sub_pos.mpr hhigh), abs_of_nonneg (sub_nonneg.mpr hq),
        abs_of_nonneg (a := q - q')] <;> linarith

section
variable {x : Binary64} {n : Nat}

/-- Two decimals of at most 15 digits on both sides of a double are not
within its rounding. -/
theorem not_sides (hn : n ≤ 15) {lower upper : Decimal} (hl : lower.coefficient ≤ 10 ^ n)
    (hu : upper.coefficient ≤ 10 ^ n)
    (hlnear : |lower.value - x.magnitude| ≤ x.magnitude / 2 ^ 53)
    (hunear : |upper.value - x.magnitude| ≤ x.magnitude / 2 ^ 53) :
    ¬(lower.value < x.magnitude ∧ x.magnitude < upper.value) := by
  rintro ⟨hlx, hxu⟩
  have hpos := lower.value_nonneg.trans_lt hlx
  have hapart := value_div_le_sub hl hu (hlx.trans hxu)
  have hdigits : (10 : ℚ) ^ n ≤ 10 ^ 15 := pow_le_pow_right₀ (by norm_num) hn
  rw [abs_of_neg (sub_neg.mpr hlx)] at hlnear
  rw [abs_of_pos (sub_pos.mpr hxu)] at hunear
  rw [div_le_iff₀ (by positivity)] at hapart
  have hgap : (upper.value - lower.value) * 10 ^ n ≤ (upper.value - lower.value) * 10 ^ 15 :=
    mul_le_mul_of_nonneg_left hdigits (by linarith)
  linarith

/-- **What is written of a finite number in at most 15 significant digits
is rounded to it exactly if some decimal of so few digits is.** -/
theorem isNearest_rounded_iff (hpos : 0 < n) (hn : n ≤ 15) :
    IsNearest x.isNegative ((Decimal.exact x).rounded n).value x ↔ x.HasDigits n := by
  constructor
  · intro h
    obtain ⟨e, he, hvalue⟩ := exists_coefficient_lt_value_rounded (Decimal.exact x) hpos
    exact ⟨e, he, hvalue ▸ h⟩
  · rintro ⟨d, hd, h⟩
    have hcoefficient := Decimal.coefficient_rounded_le (Decimal.exact x) n
    have hnear := (isRounded_rounded x hpos).nearest d hd
    rw [abs_sub_comm, abs_sub_comm x.magnitude] at hnear
    generalize (Decimal.exact x).rounded n = r at *
    rcases Nat.lt_or_ge x.units (2 ^ 53) with hsmall | hlarge
    · exact h.of_nearer d.value_nonneg hsmall hnear
    · have herror : |d.value - x.magnitude| ≤ x.magnitude / 2 ^ 53 := by
        rw [Decimal.value_eq_div] at h ⊢
        exact h.abs_sub_le d.denominator_pos (by omega)
      rcases abs_sub_eq_add_or_sides hnear with hbetween | hsides | hsides
      · exact h.of_between hbetween
      · exact absurd hsides (not_sides hn hd.le hcoefficient herror (hnear.trans herror))
      · exact absurd hsides (not_sides hn hcoefficient hd.le (hnear.trans herror) herror)

end
end Binary64
end MetricAudit
