/-
MetricAudit.Proofs.Number.Rounding — rounding a quotient to a double.

`rounded a b` is the number of units that `a / b` units are rounded to,
were there no largest double. It depends on the quotient only
(`ofUnits_scale`), grows with it (`rounded_mono`), and leaves alone what
is a double already (`ofUnits_exact`).

The rounding picks an exponent from the quotient and then the nearest
significand. `exponentFor_spec` is all that is needed of the exponent:
the significand fits in 53 bits, and fills them unless the exponent is
least. So of two quotients with different exponents the one with the
greater exponent is rounded to at least 2^52 of its steps, which no
significand of the smaller exponent exceeds.

For the same reason the exponent costs no nearness: no number of 53 bits
at any exponent is nearer to the quotient than `rounded a b`, and where
one is as near, the significand that is picked is even
(`abs_sub_rounded_le`).
-/
import Mathlib.Algebra.Order.Field.Basic
import Mathlib.Algebra.Order.Ring.Abs
import Mathlib.Algebra.Order.Ring.Nat
import Mathlib.Data.Nat.Log
import Mathlib.Tactic.Linarith
import Mathlib.Tactic.Positivity
import Mathlib.Tactic.Ring
import Mathlib.Tactic.SplitIfs
import MetricAudit.Number.Binary64

namespace MetricAudit.Binary64

/-! ## The nearest natural number -/

theorem div_le_roundDiv (a b : Nat) : a / b ≤ roundDiv a b := by
  unfold roundDiv
  dsimp only
  split
  · exact Nat.le_refl _
  · split <;> omega

theorem roundDiv_le_succ (a b : Nat) : roundDiv a b ≤ a / b + 1 := by
  unfold roundDiv
  dsimp only
  split
  · omega
  · split <;> omega

theorem roundDiv_mul_right (a b : Nat) {c : Nat} (hc : 0 < c) :
    roundDiv (a * c) (b * c) = roundDiv a b := by
  have hdouble : 2 * (a % b * c) = 2 * (a % b) * c := by ring
  unfold roundDiv
  dsimp only
  rw [Nat.mul_div_mul_right a b hc, Nat.mul_mod_mul_right, hdouble]
  simp only [Nat.mul_lt_mul_right hc]

/-- A multiple is its own quotient. -/
theorem roundDiv_mul_self (a : Nat) {b : Nat} (hb : 0 < b) : roundDiv (a * b) b = a := by
  unfold roundDiv
  dsimp only
  rw [Nat.mul_mod_left, Nat.mul_div_cancel a hb, if_pos (by omega)]

theorem roundDiv_le_of_le {a a' : Nat} (b : Nat) (h : a ≤ a') :
    roundDiv a b ≤ roundDiv a' b := by
  rcases Nat.lt_or_eq_of_le (Nat.div_le_div_right (c := b) h) with hlt | heq
  · calc roundDiv a b
        ≤ a / b + 1 := roundDiv_le_succ a b
      _ ≤ a' / b := hlt
      _ ≤ roundDiv a' b := div_le_roundDiv a' b
  · have hmod : a % b ≤ a' % b := by
      have h₁ := Nat.div_add_mod a b
      have h₂ := Nat.div_add_mod a' b
      rw [heq] at h₁
      omega
    simp only [roundDiv, heq]
    split_ifs <;> omega

/-- The greater quotient is rounded to the greater number. -/
theorem roundDiv_mono {a b a' b' : Nat} (hb : 0 < b) (hb' : 0 < b')
    (h : a * b' ≤ a' * b) : roundDiv a b ≤ roundDiv a' b' := by
  calc roundDiv a b
      = roundDiv (a * b') (b * b') := (roundDiv_mul_right a b hb').symm
    _ ≤ roundDiv (a' * b) (b * b') := roundDiv_le_of_le _ h
    _ = roundDiv (a' * b) (b' * b) := by rw [Nat.mul_comm b b']
    _ = roundDiv a' b' := roundDiv_mul_right a' b' hb

theorem div_le_div_of_mul_le {a b a' b' : Nat} (hb : 0 < b) (hb' : 0 < b')
    (h : a * b' ≤ a' * b) : a / b ≤ a' / b' := by
  calc a / b
      = a * b' / (b * b') := (Nat.mul_div_mul_right a b hb').symm
    _ ≤ a' * b / (b * b') := Nat.div_le_div_right h
    _ = a' * b / (b' * b) := by rw [Nat.mul_comm b b']
    _ = a' / b' := Nat.mul_div_mul_right a' b' hb

/-- A quotient is rounded by less than half, or by half to an even
number. -/
theorem abs_div_sub_roundDiv (a : Nat) {b : Nat} (hb : 0 < b) :
    |(a : ℚ) / b - roundDiv a b| < 1 / 2 ∨
      |(a : ℚ) / b - roundDiv a b| = 1 / 2 ∧ Even (roundDiv a b) := by
  have hb' : (0 : ℚ) < b := by exact_mod_cast hb
  have hsplit : (a : ℚ) / b = (a / b : Nat) + (a % b : Nat) / (b : ℚ) := by
    have hdivmod : (a : ℚ) = b * (a / b : Nat) + (a % b : Nat) := by
      exact_mod_cast (Nat.div_add_mod a b).symm
    rw [div_eq_iff hb'.ne', add_mul, div_mul_cancel₀ _ hb'.ne', mul_comm]
    exact hdivmod
  have hlt : ((a % b : Nat) : ℚ) / b < 1 := by
    rw [div_lt_one hb']
    exact_mod_cast Nat.mod_lt a hb
  have hnonneg : (0 : ℚ) ≤ (a % b : Nat) / (b : ℚ) := by positivity
  have hhalf : ((a % b : Nat) : ℚ) / b < 1 / 2 ↔ 2 * (a % b) < b := by
    rw [div_lt_div_iff₀ hb' two_pos, one_mul, mul_comm]
    exact_mod_cast Iff.rfl
  have hhalf' : 1 / 2 < ((a % b : Nat) : ℚ) / b ↔ b < 2 * (a % b) := by
    rw [div_lt_div_iff₀ two_pos hb', one_mul, mul_comm]
    exact_mod_cast Iff.rfl
  rw [hsplit]
  unfold roundDiv
  dsimp only
  generalize ((a % b : Nat) : ℚ) / b = f at *
  split
  · rename_i h
    left
    rw [add_sub_cancel_left, abs_of_nonneg hnonneg]
    exact hhalf.mpr h
  · split
    · rename_i h
      left
      have := hhalf'.mpr h
      push_cast
      rw [abs_lt]
      constructor <;> linarith
    · rename_i hle hge
      have hf : f = 1 / 2 := le_antisymm (not_lt.mp (mt hhalf'.mp hge)) (not_lt.mp (mt hhalf.mp hle))
      right
      rcases Nat.even_or_odd (a / b) with heven | hodd
      · rw [Nat.even_iff.mp heven, hf]
        exact ⟨by simp, by simpa using heven⟩
      · rw [Nat.odd_iff.mp hodd, hf]
        refine ⟨?_, hodd.add_one⟩
        push_cast
        rw [abs_of_nonpos] <;> linarith

/-- No other number is nearer to the quotient, and if one is as near the
rounded number is even. -/
theorem abs_div_sub_roundDiv_le (a : Nat) {b j : Nat} (hb : 0 < b) (hj : j ≠ roundDiv a b) :
    |(a : ℚ) / b - roundDiv a b| ≤ |(a : ℚ) / b - j| ∧
      (|(a : ℚ) / b - j| = |(a : ℚ) / b - roundDiv a b| → Even (roundDiv a b)) := by
  have hapart : (1 : ℚ) ≤ |(j : ℚ) - roundDiv a b| := by
    have hint : 1 ≤ |(j : ℤ) - roundDiv a b| := Int.one_le_abs (by omega)
    exact_mod_cast hint
  have htriangle := abs_sub_le (j : ℚ) (a / b) (roundDiv a b)
  rw [abs_sub_comm (j : ℚ) (a / b)] at htriangle
  rcases abs_div_sub_roundDiv a hb with hlt | ⟨hhalf, heven⟩
  · exact ⟨by linarith, fun htie => by linarith⟩
  · exact ⟨by linarith, fun _ => heven⟩

/-! ## The exponent -/

/-- At its exponent a quotient has at most 53 bits, and has 53 of them
unless the exponent is least. -/
theorem exponentFor_spec (a b : Nat) :
    a / b < 2 ^ (53 + exponentFor a b) ∧
      (exponentFor a b = 0 ∨ 2 ^ (52 + exponentFor a b) ≤ a / b) := by
  unfold exponentFor
  generalize a / b = q
  have hupper : q < 2 ^ (q.log2 + 1) := Nat.lt_log2_self
  constructor
  · exact Nat.lt_of_lt_of_le hupper (Nat.pow_le_pow_right (by decide) (by omega))
  · rcases Nat.lt_or_ge 52 q.log2 with hlarge | hsmall
    · right
      have hne : q ≠ 0 := by
        rintro rfl
        simp at hlarge
      have hlower := Nat.log2_self_le hne
      rwa [show 52 + (q.log2 - 52) = q.log2 by omega]
    · exact Or.inl (by omega)

theorem exponentFor_mono {a b a' b' : Nat} (h : a / b ≤ a' / b') :
    exponentFor a b ≤ exponentFor a' b' := by
  unfold exponentFor
  have hlog : (a / b).log2 ≤ (a' / b').log2 := by
    simp only [Nat.log2_eq_log_two]
    exact Nat.log_mono_right h
  omega

/-- The significand at the exponent of a quotient. -/
theorem significand_le (a b : Nat) :
    roundDiv a (b * 2 ^ exponentFor a b) ≤ 2 ^ 53 := by
  have hq := (exponentFor_spec a b).1
  have hlt : a / (b * 2 ^ exponentFor a b) < 2 ^ 53 := by
    rw [← Nat.div_div_eq_div_mul, Nat.div_lt_iff_lt_mul (by positivity), ← Nat.pow_add]
    exact hq
  have hround := roundDiv_le_succ a (b * 2 ^ exponentFor a b)
  omega

theorem le_significand {a b : Nat} (h : exponentFor a b ≠ 0) :
    2 ^ 52 ≤ roundDiv a (b * 2 ^ exponentFor a b) := by
  have hq := (exponentFor_spec a b).2.resolve_left h
  refine Nat.le_trans ?_ (div_le_roundDiv _ _)
  rw [← Nat.div_div_eq_div_mul, Nat.le_div_iff_mul_le (by positivity), ← Nat.pow_add]
  exact hq

/-! ## Rounding -/

/-- The units that `a / b` units are rounded to. -/
def rounded (a b : Nat) : Nat :=
  roundDiv a (b * 2 ^ exponentFor a b) * 2 ^ exponentFor a b

/-- The greater quotient is rounded to the greater number of units. -/
theorem rounded_mono {a b a' b' : Nat} (hb : 0 < b) (hb' : 0 < b')
    (h : a * b' ≤ a' * b) : rounded a b ≤ rounded a' b' := by
  have hexp : exponentFor a b ≤ exponentFor a' b' :=
    exponentFor_mono (div_le_div_of_mul_le hb hb' h)
  unfold rounded
  rcases Nat.lt_or_eq_of_le hexp with hlt | heq
  · calc roundDiv a (b * 2 ^ exponentFor a b) * 2 ^ exponentFor a b
        ≤ 2 ^ 53 * 2 ^ exponentFor a b := Nat.mul_le_mul_right _ (significand_le a b)
      _ = 2 ^ 52 * 2 ^ (exponentFor a b + 1) := by ring
      _ ≤ 2 ^ 52 * 2 ^ exponentFor a' b' :=
          Nat.mul_le_mul_left _ (Nat.pow_le_pow_right (by decide) hlt)
      _ ≤ roundDiv a' (b' * 2 ^ exponentFor a' b') * 2 ^ exponentFor a' b' :=
          Nat.mul_le_mul_right _ (le_significand (by omega))
  · rw [← heq]
    refine Nat.mul_le_mul_right _ (roundDiv_mono (by positivity) (by positivity) ?_)
    calc a * (b' * 2 ^ exponentFor a b)
        = a * b' * 2 ^ exponentFor a b := by ring
      _ ≤ a' * b * 2 ^ exponentFor a b := Nat.mul_le_mul_right _ h
      _ = a' * (b * 2 ^ exponentFor a b) := by ring

/-- Distances in steps of an exponent. -/
theorem abs_sub_steps (q : ℚ) (m k : Nat) :
    |q - (m * 2 ^ k : Nat)| = |q / 2 ^ k - m| * 2 ^ k := by
  have hpow : (0 : ℚ) < 2 ^ k := by positivity
  rw [← abs_of_pos hpow, ← abs_mul, abs_of_pos hpow, sub_mul, div_mul_cancel₀ _ hpow.ne']
  push_cast
  rfl

/-- The quotient reaches the least significand of its exponent, unless that
is the least exponent. -/
theorem least_le_div {a b : Nat} (hb : 0 < b) (h : exponentFor a b ≠ 0) :
    ((2 ^ 52 * 2 ^ exponentFor a b : Nat) : ℚ) ≤ a / b := by
  have hb' : (0 : ℚ) < b := by exact_mod_cast hb
  have hfloor := (exponentFor_spec a b).2.resolve_left h
  rw [Nat.pow_add, Nat.le_div_iff_mul_le hb] at hfloor
  rw [le_div_iff₀ hb']
  exact_mod_cast hfloor

/-- No number of 53 bits at any exponent is nearer to the quotient than what
it is rounded to; if one is as near, the significand that is picked is
even. -/
theorem abs_sub_rounded_le (a : Nat) {b m k : Nat} (hb : 0 < b) (hm : m < 2 ^ 53)
    (hne : m * 2 ^ k ≠ rounded a b) :
    |(a : ℚ) / b - rounded a b| ≤ |(a : ℚ) / b - (m * 2 ^ k : Nat)| ∧
      (|(a : ℚ) / b - (m * 2 ^ k : Nat)| = |(a : ℚ) / b - rounded a b| →
        Even (roundDiv a (b * 2 ^ exponentFor a b))) := by
  have hleast := least_le_div (a := a) hb
  unfold rounded at hne ⊢
  generalize exponentFor a b = e at *
  have hpow : (0 : ℚ) < 2 ^ e := by positivity
  -- multiples of the step are compared as numbers of steps
  have hsteps : ∀ j, j ≠ roundDiv a (b * 2 ^ e) →
      |(a : ℚ) / b - (roundDiv a (b * 2 ^ e) * 2 ^ e : Nat)| ≤
        |(a : ℚ) / b - (j * 2 ^ e : Nat)| ∧
      (|(a : ℚ) / b - (j * 2 ^ e : Nat)| =
        |(a : ℚ) / b - (roundDiv a (b * 2 ^ e) * 2 ^ e : Nat)| →
          Even (roundDiv a (b * 2 ^ e))) := by
    intro j hj
    have hnear := abs_div_sub_roundDiv_le a (b := b * 2 ^ e) (by positivity) hj
    push_cast [← div_div] at hnear
    rw [abs_sub_steps, abs_sub_steps, mul_le_mul_iff_left₀ hpow, mul_left_inj' hpow.ne']
    exact hnear
  rcases Nat.lt_or_ge k e with hlt | hge
  · have hlow : m * 2 ^ k < 2 ^ 52 * 2 ^ e := by
      calc m * 2 ^ k
          < 2 ^ 53 * 2 ^ k := Nat.mul_lt_mul_of_pos_right hm (Nat.two_pow_pos k)
        _ = 2 ^ 52 * 2 ^ (k + 1) := by ring
        _ ≤ 2 ^ 52 * 2 ^ e := Nat.mul_le_mul_left _ (Nat.pow_le_pow_right (by decide) hlt)
    have hlow' : ((m * 2 ^ k : Nat) : ℚ) < (2 ^ 52 * 2 ^ e : Nat) := by exact_mod_cast hlow
    have hreach := hleast (by omega)
    have hnear : |(a : ℚ) / b - (roundDiv a (b * 2 ^ e) * 2 ^ e : Nat)| ≤
        |(a : ℚ) / b - (2 ^ 52 * 2 ^ e : Nat)| := by
      by_cases hj : 2 ^ 52 = roundDiv a (b * 2 ^ e)
      · rw [← hj]
      · exact (hsteps _ hj).1
    rw [abs_of_nonneg (sub_nonneg.mpr hreach)] at hnear
    rw [abs_of_nonneg (sub_nonneg.mpr (hlow'.le.trans hreach))]
    have hfar := hnear.trans_lt (sub_lt_sub_left hlow' _)
    exact ⟨hfar.le, fun htie => absurd htie hfar.ne'⟩
  · have hmultiple : m * 2 ^ k = m * 2 ^ (k - e) * 2 ^ e := by
      rw [Nat.mul_assoc, ← Nat.pow_add, Nat.sub_add_cancel hge]
    rw [hmultiple] at hne ⊢
    exact hsteps _ fun hj => hne (by rw [hj])

/-- The rounding depends on the quotient only. -/
theorem ofUnits_scale (negative : Bool) (a b : Nat) {c : Nat} (hc : 0 < c) :
    ofUnits negative (a * c) (b * c) = ofUnits negative a b := by
  have hexp : exponentFor (a * c) (b * c) = exponentFor a b := by
    rw [exponentFor, Nat.mul_div_mul_right a b hc, ← exponentFor]
  have hshift : b * c * Nat.pow 2 (exponentFor a b) = b * Nat.pow 2 (exponentFor a b) * c := by
    ring
  unfold ofUnits
  dsimp only
  rw [hexp, hshift, roundDiv_mul_right _ _ hc]

theorem ofUnits_congr {negative : Bool} {a b a' b' : Nat} (hb : 0 < b) (hb' : 0 < b')
    (h : a * b' = a' * b) : ofUnits negative a b = ofUnits negative a' b' := by
  calc ofUnits negative a b
      = ofUnits negative (a * b') (b * b') := (ofUnits_scale negative a b hb').symm
    _ = ofUnits negative (a' * b) (b' * b) := by rw [h, Nat.mul_comm b b']
    _ = ofUnits negative a' b' := ofUnits_scale negative a' b' hb

/-- Equal quotients are rounded to one double. -/
theorem ofRatio_congr {negative : Bool} {a b a' b' : Nat} (hb : 0 < b) (hb' : 0 < b')
    (h : a * b' = a' * b) : ofRatio negative a b = ofRatio negative a' b' := by
  unfold ofRatio
  generalize Nat.pow 2 unitPlaces = p
  refine ofUnits_congr hb hb' ?_
  calc a * p * b' = a * b' * p := by ring
    _ = a' * b * p := by rw [h]
    _ = a' * p * b := by ring

theorem units_pack {negative : Bool} {m k : Nat} (h : (pack negative m k).isFinite = true) :
    (pack negative m k).units = m * 2 ^ k := by
  unfold pack at h ⊢
  split
  · rfl
  · rename_i hnot
    rw [dif_neg hnot] at h
    cases h

/-- What a quotient is rounded to, where that is in range. -/
theorem units_ofUnits {negative : Bool} {a b : Nat}
    (h : (ofUnits negative a b).isFinite = true) :
    (ofUnits negative a b).units = rounded a b := by
  have hle := significand_le a b
  unfold ofUnits at h ⊢
  dsimp only at h ⊢
  simp only [Nat.pow_eq] at h ⊢
  split
  · rename_i hlt
    rw [if_pos hlt] at h
    exact units_pack h
  · rename_i hge
    rw [if_neg hge] at h
    have hfull : roundDiv a (b * 2 ^ exponentFor a b) = 2 ^ 53 := by omega
    rw [units_pack h, rounded, hfull]
    ring

/-- A number with units is finite. -/
theorem isFinite_of_units_ne_zero {x : Binary64} (h : x.units ≠ 0) : x.isFinite = true := by
  cases x with
  | finite s m k hc => rfl
  | nan => exact absurd rfl h
  | infinity s => exact absurd rfl h

/-- Of two quotients the greater one is rounded to the greater double. -/
theorem units_ofRatio_mono {negative negative' : Bool} {a b a' b' : Nat} (hb : 0 < b)
    (hb' : 0 < b') (h : a * b' ≤ a' * b)
    (hfinite : (ofRatio negative' a' b').isFinite = true) :
    (ofRatio negative a b).units ≤ (ofRatio negative' a' b').units := by
  by_cases hzero : (ofRatio negative a b).units = 0
  · omega
  · have hfinite₀ := isFinite_of_units_ne_zero hzero
    unfold ofRatio at hfinite hfinite₀ ⊢
    rw [units_ofUnits hfinite₀, units_ofUnits hfinite]
    generalize Nat.pow 2 unitPlaces = p
    refine rounded_mono hb hb' ?_
    calc a * p * b' = a * b' * p := by ring
      _ ≤ a' * b * p := Nat.mul_le_mul_right p h
      _ = a' * p * b := by ring

/-- A double is not changed by rounding. -/
theorem ofUnits_exact (negative : Bool) {m k : Nat} (h : Canonical m k) :
    ofUnits negative (m * 2 ^ k) 1 = .finite negative m k h := by
  obtain ⟨hm, hnormal, hk⟩ := id h
  simp only [Nat.pow_eq] at hm hnormal
  have hexp : exponentFor (m * 2 ^ k) 1 = k := by
    rw [exponentFor, Nat.div_one]
    rcases hnormal with hnormal | rfl
    · have hlog : (m * 2 ^ k).log2 = 52 + k := by
        rw [Nat.log2_eq_iff (by positivity)]
        constructor
        · calc 2 ^ (52 + k) = 2 ^ 52 * 2 ^ k := Nat.pow_add ..
            _ ≤ m * 2 ^ k := Nat.mul_le_mul_right _ hnormal
        · calc m * 2 ^ k < 2 ^ 53 * 2 ^ k := Nat.mul_lt_mul_of_pos_right hm (by positivity)
            _ = 2 ^ (52 + k + 1) := by ring
      omega
    · rw [Nat.pow_zero, Nat.mul_one]
      rcases Nat.eq_zero_or_pos m with rfl | hpos
      · rfl
      · have := (Nat.log2_lt (by omega)).mpr hm
        omega
  unfold ofUnits
  dsimp only
  rw [hexp]
  simp only [Nat.pow_eq]
  rw [Nat.one_mul, roundDiv_mul_self m (by positivity), if_pos hm, pack, dif_pos h]

end MetricAudit.Binary64
