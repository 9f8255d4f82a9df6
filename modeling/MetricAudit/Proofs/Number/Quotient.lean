/-
MetricAudit.Proofs.Number.Quotient — quotients that are rounded to zero.

Below half the least positive double nothing but zero is near, and at the
half it is the even one of two. So a quotient is rounded to zero exactly
if it is at most `halfLeast` (`isZero_ofRatio_iff`), and this may be so
though neither of the numbers that are divided is zero
(`isZero_div_iff`).
-/
import MetricAudit.Proofs.Number.Nearest

namespace MetricAudit.Binary64

/-- Half the least positive double. -/
def halfLeast : ℚ := 1 / 2 ^ (unitPlaces + 1)

theorem two_mul_halfLeast : 2 * halfLeast = 1 / 2 ^ unitPlaces := by
  unfold halfLeast
  rw [pow_succ]
  field_simp

theorem isZero_iff {x : Binary64} : x.isZero = true ↔ x.isFinite = true ∧ x.units = 0 := by
  cases x with
  | nan => simp [isZero, isFinite]
  | infinity s => simp [isZero, isFinite]
  | finite s m k h => simp [isZero, isFinite, units_finite]

theorem isZero_iff_magnitude {x : Binary64} (hx : x.isFinite = true) :
    x.isZero = true ↔ x.magnitude = 0 := by
  have hpow : (2 : ℚ) ^ unitPlaces ≠ 0 := by positivity
  rw [isZero_iff, and_iff_right hx, magnitude, div_eq_zero_iff, or_iff_left hpow, Nat.cast_eq_zero]

/-- A number that is rounded to zero is no nearer to the least positive
double. -/
theorem IsNearest.le_halfLeast {negative : Bool} {q : ℚ} {x : Binary64}
    (h : IsNearest negative q x) (hx : x.isZero = true) : q ≤ halfLeast := by
  have hzero := (isZero_iff_magnitude h.isFinite).mp hx
  have hleast := h.nearest (.finite false 1 0 (by decide)) rfl
  have hunit : (finite false 1 0 (by decide)).magnitude = 1 / 2 ^ unitPlaces := by
    simp [magnitude, units]
  rw [hzero, sub_zero, hunit, ← two_mul_halfLeast] at hleast
  have hpos : 0 < halfLeast := by
    unfold halfLeast
    positivity
  by_contra hlarge
  rw [not_le] at hlarge
  rw [abs_of_pos (hpos.trans hlarge), le_abs] at hleast
  rcases hleast with h | h <;> linarith

/-- **A quotient is rounded to zero exactly if it is at most half the
least positive double.** -/
theorem isZero_ofRatio_iff {negative : Bool} {a b : Nat} (hb : 0 < b) :
    (ofRatio negative a b).isZero = true ↔ (a : ℚ) / b ≤ halfLeast := by
  constructor
  · exact fun h => (isNearest_ofRatio hb (isZero_iff.mp h).1).le_halfLeast h
  · intro hsmall
    have hnear : IsNearest negative (a / b) (zero negative) := by
      refine isNearest_zero negative (by positivity) ?_
      rw [← two_mul_halfLeast]
      linarith
    have hfinite : (ofRatio negative a b).isFinite = true :=
      (isFinite_ofRatio_iff hb).mpr hnear.inRange
    rw [(isNearest_ofRatio hb hfinite).unique hnear]
    rfl

/-- Division by a number that is not zero. -/
theorem isZero_div_iff {x y : Binary64} (hx : x.isFinite = true) (hy : y.isFinite = true)
    (hne : y.isZero = false) :
    (x.div y).isZero = true ↔ x.magnitude / y.magnitude ≤ halfLeast := by
  obtain ⟨s, m, k, hc, rfl⟩ := exists_eq_finite hx
  obtain ⟨s', n, j, hc', rfl⟩ := exists_eq_finite hy
  have hn : n ≠ 0 := by simpa [isZero] using hne
  have hpow : (2 : ℚ) ^ unitPlaces ≠ 0 := by positivity
  have hquotient : (finite s m k hc).magnitude / (finite s' n j hc').magnitude =
      (m * 2 ^ k : Nat) / (n * 2 ^ j : Nat) := by
    rw [magnitude, magnitude, units_finite, units_finite, div_div_div_cancel_right₀ hpow]
  rw [div, if_neg hn, Nat.pow_eq, Nat.pow_eq, isZero_ofRatio_iff (by positivity), hquotient]

end MetricAudit.Binary64
