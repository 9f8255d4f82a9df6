/-
MetricAudit.Proofs.Number.Decimal — decimals as rational numbers.

`Decimal.value` is the rational number that a decimal is, and
`Binary64.magnitude` the one that a finite double is, sign apart. Rounding
a decimal to a double sees its value only (`toBinary64_congr`) and keeps
the order of values (`units_toBinary64_mono`); the exact decimal of a
double is rounded to that double (`toBinary64_exact`).

So the decimal that is chosen for a double reads back as the double,
whether one of few digits was found or not (`toBinary64_shortest`).

The scale of a decimal is the exponent of the greatest power of ten that
its value reaches (`zpow_le_value_iff`). The scale of the chosen decimal
decides how a number is written, and `le_scale_shortest_iff` and
`scale_shortest_lt` say what it is in terms of the number.
-/
import Mathlib.Algebra.Order.Field.Power
import Mathlib.Algebra.Order.Field.Rat
import Mathlib.Tactic.FieldSimp
import Mathlib.Tactic.NormNum
import MetricAudit.Number.Decimal
import MetricAudit.Proofs.Number.Digits
import MetricAudit.Proofs.Number.Rounding

namespace MetricAudit

namespace Binary64

/-- The absolute value of a finite number. -/
def magnitude (x : Binary64) : ℚ := x.units / 2 ^ unitPlaces

/-- A number with another sign. -/
def withSign (negative : Bool) : Binary64 → Binary64
  | .nan => .nan
  | .infinity _ => .infinity negative
  | .finite _ m k h => .finite negative m k h

@[simp] theorem isFinite_withSign (negative : Bool) (x : Binary64) :
    (x.withSign negative).isFinite = x.isFinite := by
  cases x <;> rfl

@[simp] theorem units_withSign (negative : Bool) (x : Binary64) :
    (x.withSign negative).units = x.units := by
  cases x <;> rfl

@[simp] theorem withSign_withSign (negative negative' : Bool) (x : Binary64) :
    (x.withSign negative).withSign negative' = x.withSign negative' := by
  cases x <;> rfl

theorem exists_eq_finite {x : Binary64} (h : x.isFinite = true) :
    ∃ s m k hc, x = .finite s m k hc := by
  cases x with
  | finite s m k hc => exact ⟨s, m, k, hc, rfl⟩
  | nan => cases h
  | infinity s => cases h

theorem units_finite (s : Bool) {m k : Nat} (h : Canonical m k) :
    (finite s m k h).units = m * 2 ^ k := rfl

/-- No number has more units than 53 bits at the greatest exponent. -/
theorem units_lt (x : Binary64) : x.units < 2 ^ (53 + 2045) := by
  cases x with
  | finite s m k h =>
    rw [units_finite]
    calc m * 2 ^ k
        < 2 ^ 53 * 2 ^ k := Nat.mul_lt_mul_of_pos_right h.1 (Nat.two_pow_pos k)
      _ = 2 ^ (53 + k) := (pow_add 2 53 k).symm
      _ ≤ 2 ^ (53 + 2045) := pow_le_pow_right₀ one_le_two (Nat.add_le_add_left h.2.2 53)
  | nan => exact pow_pos two_pos _
  | infinity s => exact pow_pos two_pos _

end Binary64

namespace Decimal

open Binary64 (unitPlaces)

/-! ## Values -/

/-- The number that a decimal is. -/
def value (d : Decimal) : ℚ := d.coefficient * (10 : ℚ) ^ d.exponent

/-- The value as a quotient of natural numbers. -/
def numerator (d : Decimal) : Nat := d.coefficient * 10 ^ d.exponent.toNat

def denominator (d : Decimal) : Nat := 10 ^ (-d.exponent).toNat

theorem denominator_pos (d : Decimal) : 0 < d.denominator := by
  unfold denominator
  positivity

theorem value_eq_div (d : Decimal) : d.value = d.numerator / d.denominator := by
  obtain ⟨c, e⟩ := d
  cases e with
  | ofNat n =>
    simp [value, numerator, denominator]
  | negSucc n =>
    simp only [value, numerator, denominator, Int.toNat_negSucc, Int.neg_negSucc,
      Int.toNat_natCast, zpow_negSucc, pow_zero, Nat.mul_one]
    push_cast
    rw [div_eq_mul_inv]

theorem value_le_iff {d d' : Decimal} :
    d.value ≤ d'.value ↔
      d.numerator * d'.denominator ≤ d'.numerator * d.denominator := by
  have hd : (0 : ℚ) < d.denominator := by exact_mod_cast d.denominator_pos
  have hd' : (0 : ℚ) < d'.denominator := by exact_mod_cast d'.denominator_pos
  rw [value_eq_div, value_eq_div, div_le_div_iff₀ hd hd']
  exact_mod_cast Iff.rfl

theorem value_eq_zero_iff {d : Decimal} : d.value = 0 ↔ d.coefficient = 0 := by
  have hpow : (10 : ℚ) ^ d.exponent ≠ 0 := by positivity
  simp [value, hpow]

theorem value_nonneg (d : Decimal) : 0 ≤ d.value := by
  unfold value
  positivity

/-! ## Scales -/

/-- The powers of ten up to the scale, and no others, are reached. -/
theorem zpow_le_value_iff {d : Decimal} (hd : d.coefficient ≠ 0) (k : Int) :
    (10 : ℚ) ^ k ≤ d.value ↔ k ≤ d.scale := by
  have hshift : (10 : ℚ) ^ k ≤ d.value ↔ (10 : ℚ) ^ (k - d.exponent) ≤ d.coefficient := by
    rw [value, zpow_sub₀ (by norm_num), div_le_iff₀ (by positivity)]
  have hlength : 0 < d.digits.length :=
    List.length_pos_iff.mpr (Text.ofNat_ne_nil d.coefficient)
  rw [hshift, scale]
  rcases Int.lt_or_le (k - d.exponent) 0 with hneg | hpos
  · refine iff_of_true ?_ (by omega)
    calc (10 : ℚ) ^ (k - d.exponent)
        ≤ 10 ^ (0 : Int) := zpow_le_zpow_right₀ (by norm_num) (by omega)
      _ = 1 := zpow_zero _
      _ ≤ d.coefficient := by exact_mod_cast Nat.one_le_iff_ne_zero.mpr hd
  · obtain ⟨n, hn⟩ := Int.eq_ofNat_of_zero_le hpos
    have hdigits := Text.pow_le_iff_lt_length (k := n) hd
    rw [← digits] at hdigits
    rw [hn, zpow_natCast]
    calc (10 : ℚ) ^ n ≤ d.coefficient
        ↔ 10 ^ n ≤ d.coefficient := by exact_mod_cast Iff.rfl
      _ ↔ n < d.digits.length := hdigits
      _ ↔ k ≤ d.digits.length - 1 + d.exponent := by omega

theorem scale_le_of_value_le {d d' : Decimal} (hd : d.coefficient ≠ 0)
    (hd' : d'.coefficient ≠ 0) (h : d.value ≤ d'.value) : d.scale ≤ d'.scale := by
  rw [← zpow_le_value_iff hd']
  exact le_trans ((zpow_le_value_iff hd _).mpr (le_refl _)) h

theorem scale_eq_of_value_eq {d d' : Decimal} (hd : d.coefficient ≠ 0)
    (hd' : d'.coefficient ≠ 0) (h : d.value = d'.value) : d.scale = d'.scale :=
  le_antisymm (scale_le_of_value_le hd hd' h.le) (scale_le_of_value_le hd' hd h.ge)

/-! ## Rounding to doubles -/

/-- In the range of doubles a decimal is rounded as the quotient it is. -/
theorem toBinary64_eq_ofRatio (negative : Bool) {d : Decimal} (hd : d.coefficient ≠ 0)
    (hleast : -330 ≤ d.scale) (hmost : d.scale < 310) :
    d.toBinary64 negative = .ofRatio negative d.numerator d.denominator := by
  unfold toBinary64
  rw [if_neg hd, if_neg (by omega), if_neg (by omega)]
  obtain ⟨c, e⟩ := d
  cases e with
  | ofNat n => simp [numerator, denominator]
  | negSucc n => simp [numerator, denominator]

/-- Decimals of one value are rounded to one double. -/
theorem toBinary64_congr (negative : Bool) {d d' : Decimal} (h : d.value = d'.value) :
    d.toBinary64 negative = d'.toBinary64 negative := by
  by_cases hd : d.coefficient = 0
  · have hd' : d'.coefficient = 0 := by
      rw [← value_eq_zero_iff, ← h, value_eq_zero_iff, hd]
    simp [toBinary64, hd, hd']
  · have hd' : d'.coefficient ≠ 0 := by
      rwa [Ne, ← value_eq_zero_iff, ← h, value_eq_zero_iff]
    have hscale := scale_eq_of_value_eq hd hd' h
    by_cases hmost : 310 ≤ d.scale
    · simp [toBinary64, hd, hd', hmost, ← hscale]
    · by_cases hleast : d.scale < -330
      · simp [toBinary64, hd, hd', hmost, hleast, ← hscale]
      · rw [toBinary64_eq_ofRatio negative hd (by omega) (by omega),
          toBinary64_eq_ofRatio negative hd' (by omega) (by omega)]
        exact Binary64.ofRatio_congr d.denominator_pos d'.denominator_pos
          (le_antisymm (value_le_iff.mp h.le) (value_le_iff.mp h.ge))

/-- Of two decimals the greater one is rounded to the greater double. -/
theorem units_toBinary64_mono {negative negative' : Bool} {d d' : Decimal}
    (h : d.value ≤ d'.value) (hfinite : (d'.toBinary64 negative').isFinite = true) :
    (d.toBinary64 negative).units ≤ (d'.toBinary64 negative').units := by
  by_cases hzero : (d.toBinary64 negative).units = 0
  · omega
  · have hd : d.coefficient ≠ 0 := by
      intro hd
      apply hzero
      simp [toBinary64, hd, Binary64.units, Binary64.zero]
    have hd' : d'.coefficient ≠ 0 := by
      intro hd'
      rw [value_eq_zero_iff.mpr hd'] at h
      exact hd (value_eq_zero_iff.mp (le_antisymm h d.value_nonneg))
    have hscale := scale_le_of_value_le hd hd' h
    have hmost : ¬310 ≤ d'.scale := by
      intro hlarge
      simp [toBinary64, hd', hlarge, Binary64.isFinite] at hfinite
    have hleast : ¬d.scale < -330 := by
      intro hsmall
      apply hzero
      simp [toBinary64, hd, hsmall, show ¬310 ≤ d.scale by omega, Binary64.units,
        Binary64.zero]
    rw [toBinary64_eq_ofRatio negative hd (by omega) (by omega)]
    rw [toBinary64_eq_ofRatio negative' hd' (by omega) (by omega)] at hfinite ⊢
    exact Binary64.units_ofRatio_mono d.denominator_pos d'.denominator_pos
      (value_le_iff.mp h) hfinite

/-! ## Signs -/

/-- The sign has no part in the rounding. -/
theorem toBinary64_withSign (negative : Bool) (d : Decimal) :
    d.toBinary64 negative = (d.toBinary64 false).withSign negative := by
  have hpack : ∀ m k, Binary64.pack negative m k = (Binary64.pack false m k).withSign negative := by
    intro m k
    unfold Binary64.pack
    split <;> rfl
  have hround : ∀ a b, Binary64.ofRatio negative a b =
      (Binary64.ofRatio false a b).withSign negative := by
    intro a b
    unfold Binary64.ofRatio Binary64.ofUnits
    dsimp only
    split <;> exact hpack _ _
  unfold toBinary64
  split
  · rfl
  · split
    · rfl
    · split
      · rfl
      · split <;> exact hround _ _

/-! ## The decimals of a double -/

theorem value_exact (x : Binary64) : (exact x).value = x.magnitude := by
  have hten : (10 : ℚ) ^ unitPlaces = 2 ^ unitPlaces * 5 ^ unitPlaces := by
    rw [← mul_pow]
    norm_num
  have hpow : (10 : ℚ) ^ (-(unitPlaces : Int)) = 1 / (2 ^ unitPlaces * 5 ^ unitPlaces) := by
    rw [zpow_neg, zpow_natCast, hten, one_div]
  unfold exact ofUnits value Binary64.magnitude
  dsimp only
  rw [hpow, Nat.pow_eq]
  push_cast
  field_simp

theorem le_scale_exact {x : Binary64} (hpos : 0 < x.units) (hne : (exact x).coefficient ≠ 0) :
    -330 ≤ (exact x).scale := by
  have hpow : 2 ^ unitPlaces ≤ 10 ^ 330 := by decide +kernel
  rw [← zpow_le_value_iff hne, value_exact]
  calc (10 : ℚ) ^ (-330 : Int)
      = 1 / 10 ^ 330 := by rw [zpow_neg, one_div, ← zpow_natCast, Nat.cast_ofNat]
    _ ≤ 1 / 2 ^ unitPlaces := by
        gcongr
        exact_mod_cast hpow
    _ ≤ x.magnitude := by
        unfold Binary64.magnitude
        gcongr
        exact_mod_cast hpos

theorem scale_exact_lt {x : Binary64} (hne : (exact x).coefficient ≠ 0) :
    (exact x).scale < 310 := by
  have hpow : 2 ^ (53 + 2045) ≤ 10 ^ 310 * 2 ^ unitPlaces := by decide +kernel
  rw [← not_le, ← zpow_le_value_iff hne, value_exact, not_le]
  calc x.magnitude
      < 2 ^ (53 + 2045) / 2 ^ unitPlaces := by
        unfold Binary64.magnitude
        gcongr
        exact_mod_cast Binary64.units_lt x
    _ ≤ 10 ^ (310 : Int) := by
        rw [div_le_iff₀ (by positivity)]
        exact_mod_cast hpow

/-- The exact decimal of a number is rounded to that number. -/
theorem toBinary64_exact (negative : Bool) {x : Binary64} (hx : x.isFinite = true) :
    (exact x).toBinary64 negative = x.withSign negative := by
  obtain ⟨s, m, k, h, rfl⟩ := Binary64.exists_eq_finite hx
  set x := Binary64.finite s m k h
  have hunits : x.units = m * 2 ^ k := rfl
  change _ = Binary64.finite negative m k h
  rcases Nat.eq_zero_or_pos m with rfl | hm
  · obtain rfl : k = 0 := h.2.1.resolve_left (by decide)
    have hzero : (exact x).coefficient = 0 := Nat.zero_mul _
    rw [toBinary64, if_pos hzero, Binary64.zero]
  · have hpos : 0 < x.units := by
      rw [hunits]
      positivity
    have hne : (exact x).coefficient ≠ 0 := by
      change x.units * Nat.pow 5 unitPlaces ≠ 0
      rw [Nat.pow_eq]
      positivity
    rw [toBinary64_eq_ofRatio negative hne (le_scale_exact hpos hne) (scale_exact_lt hne),
      ← Binary64.ofUnits_exact negative h]
    refine Binary64.ofUnits_congr (exact x).denominator_pos Nat.one_pos ?_
    have hneg : (-(-(unitPlaces : Int))).toNat = unitPlaces := by omega
    have hzero : (-(unitPlaces : Int)).toNat = 0 := by omega
    simp only [exact, ofUnits, numerator, denominator, hneg, hzero, hunits, Nat.pow_eq]
    generalize unitPlaces = p
    have hten : 10 ^ p = 5 ^ p * 2 ^ p := by
      rw [← Nat.mul_pow]
    rw [hten]
    ring

/-- The decimal that is chosen for a number is rounded to that number. -/
theorem toBinary64_shortest (negative : Bool) {x : Binary64} (hx : x.isFinite = true) :
    (shortest x).toBinary64 negative = x.withSign negative := by
  suffices hmagnitude : (shortest x).toBinary64 false = x.withSign false by
    rw [toBinary64_withSign, hmagnitude, Binary64.withSign_withSign]
  unfold shortest
  dsimp only
  cases hfind : List.find? (readsBackAs x) _ with
  | some d =>
    have hreads := List.find?_some hfind
    obtain ⟨s, m, k, h, rfl⟩ := Binary64.exists_eq_finite hx
    simpa [readsBackAs, Binary64.withSign] using hreads
  | none => exact toBinary64_exact false hx

/-- Numbers of one magnitude differ in the sign at most. -/
theorem withSign_congr (negative : Bool) {x y : Binary64} (hx : x.isFinite = true)
    (hy : y.isFinite = true) (h : x.units = y.units) :
    x.withSign negative = y.withSign negative := by
  have hexact : exact x = exact y := by
    rw [exact, h, ← exact]
  rw [← toBinary64_exact negative hx, hexact, toBinary64_exact negative hy]

/-- Numbers of one magnitude have one decimal. -/
theorem shortest_congr {x y : Binary64} (hx : x.isFinite = true) (hy : y.isFinite = true)
    (h : x.units = y.units) : shortest x = shortest y := by
  have hround := withSign_congr false hx hy h
  obtain ⟨s, m, k, hc, rfl⟩ := Binary64.exists_eq_finite hx
  obtain ⟨s', m', k', hc', rfl⟩ := Binary64.exists_eq_finite hy
  obtain ⟨-, rfl, rfl⟩ := Binary64.finite.inj hround
  rfl

/-! ## The scale of the chosen decimal -/

theorem coefficient_shortest_ne_zero {x : Binary64} (hx : x.units ≠ 0) :
    (shortest x).coefficient ≠ 0 := by
  intro hzero
  have hread := toBinary64_shortest false (Binary64.isFinite_of_units_ne_zero hx)
  rw [toBinary64, if_pos hzero] at hread
  apply hx
  rw [← Binary64.units_withSign false, ← hread]
  exact Nat.zero_mul _

/-- The powers of ten that the chosen decimal reaches are rounded to no
more than the number. -/
theorem units_zpow_le {x : Binary64} (hx : x.units ≠ 0) {j : Int}
    (hj : j ≤ (shortest x).scale) : (toBinary64 false ⟨1, j⟩).units ≤ x.units := by
  have hfinite := Binary64.isFinite_of_units_ne_zero hx
  have hvalue : (⟨1, j⟩ : Decimal).value ≤ (shortest x).value := by
    rw [← zpow_le_value_iff (coefficient_shortest_ne_zero hx)] at hj
    simpa [value] using hj
  have hmono : (toBinary64 false ⟨1, j⟩).units ≤ ((shortest x).toBinary64 false).units := by
    refine units_toBinary64_mono hvalue ?_
    rw [toBinary64_shortest false hfinite, Binary64.isFinite_withSign, hfinite]
  rwa [toBinary64_shortest false hfinite, Binary64.units_withSign] at hmono

/-- A number of 10^16 or more is whole, so the decimal of any other one
stays below. -/
theorem scale_shortest_lt {x : Binary64} (hx : x.isFinite = true) (hwhole : x.toInt? = none) :
    (shortest x).scale < 16 := by
  obtain ⟨s, m, k, h, rfl⟩ := Binary64.exists_eq_finite hx
  by_contra hscale
  have hm : m * 2 ^ k ≠ 0 := by
    intro hzero
    simp [Binary64.toInt?, hzero] at hwhole
  have hle : (toBinary64 false ⟨1, 16⟩).units ≤ m * 2 ^ k :=
    units_zpow_le (x := .finite s m k h) hm (by omega)
  have hlarge : 2 ^ 53 * 2 ^ unitPlaces ≤ (toBinary64 false ⟨1, 16⟩).units := by
    decide +kernel
  have hk : unitPlaces ≤ k := by
    by_contra hk
    have hlt : m * 2 ^ k < 2 ^ 53 * 2 ^ unitPlaces :=
      Nat.mul_lt_mul_of_lt_of_le h.1 (Nat.pow_le_pow_right (by decide) (by omega))
        (Nat.two_pow_pos _)
    omega
  have hdvd : ∀ p ≤ k, m * Nat.pow 2 k % Nat.pow 2 p = 0 := by
    intro p hp
    exact Nat.mod_eq_zero_of_dvd (Dvd.dvd.mul_left (Nat.pow_dvd_pow 2 hp) m)
  simp only [Binary64.toInt?, hdvd unitPlaces hk, if_true, reduceCtorEq] at hwhole

/-- The least double from 10^-4 on. -/
def tenThousandth : Binary64 := toBinary64 false ⟨1, -4⟩

theorem isFinite_tenThousandth : tenThousandth.isFinite = true := by decide +kernel

theorem scale_shortest_tenThousandth : (shortest tenThousandth).scale = -4 := by
  decide +kernel

theorem le_magnitude_tenThousandth : 1 / 10 ^ 4 ≤ tenThousandth.magnitude := by
  have hunits : 2 ^ unitPlaces ≤ tenThousandth.units * 10 ^ 4 := by decide +kernel
  unfold Binary64.magnitude
  rw [div_le_div_iff₀ (by positivity) (by positivity), one_mul]
  exact_mod_cast hunits

/-- A number other than zero is below 10^-4 exactly if its decimal is:
the least double from 10^-4 on is written `0.0001`. -/
theorem le_scale_shortest_iff {x : Binary64} (hx : x.units ≠ 0) :
    -4 ≤ (shortest x).scale ↔ 1 / 10 ^ 4 ≤ x.magnitude := by
  have hvalue : (⟨1, -4⟩ : Decimal).value = 1 / 10 ^ 4 := by
    norm_num [value]
  have hfinite := Binary64.isFinite_of_units_ne_zero hx
  constructor
  · intro hscale
    have hle : tenThousandth.units ≤ x.units := units_zpow_le hx hscale
    calc (1 : ℚ) / 10 ^ 4
        ≤ tenThousandth.magnitude := le_magnitude_tenThousandth
      _ ≤ x.magnitude := by
          unfold Binary64.magnitude
          gcongr
  · intro hmagnitude
    by_contra hscale
    have hpow : (10 : ℚ) ^ (-4 : Int) = 1 / 10 ^ 4 := by norm_num
    have hsmall : (shortest x).value ≤ (⟨1, -4⟩ : Decimal).value := by
      rw [← zpow_le_value_iff (coefficient_shortest_ne_zero hx), not_le, hpow, ← hvalue] at hscale
      exact hscale.le
    have hupper : ((shortest x).toBinary64 false).units ≤ tenThousandth.units :=
      units_toBinary64_mono hsmall isFinite_tenThousandth
    have hlower : (toBinary64 false ⟨1, -4⟩).units ≤ ((exact x).toBinary64 false).units := by
      refine units_toBinary64_mono (by rwa [hvalue, value_exact]) ?_
      rw [toBinary64_exact false hfinite, Binary64.isFinite_withSign, hfinite]
    rw [toBinary64_shortest false hfinite, Binary64.units_withSign] at hupper
    rw [toBinary64_exact false hfinite, Binary64.units_withSign] at hlower
    have hsame : x.units = tenThousandth.units := le_antisymm hupper hlower
    rw [shortest_congr hfinite isFinite_tenThousandth hsame,
      scale_shortest_tenThousandth] at hscale
    exact hscale (le_refl _)

end Decimal
end MetricAudit
