/-
MetricAudit.Proofs.Number.Range — the range of the doubles.

A quotient is rounded to an infinity exactly if the units it is rounded
to are more than a double has (`isFinite_ofUnits_iff`). One number settles
when that is: the largest double and half a step, which is a tie and goes
to the even significand, the one of the next exponent. Rounding keeps the
order, so from there on nothing has a double; below it the largest double
is nearer than anything past it (`rounded_lt_iff`). So `pastLargest` is the
border for quotients (`isFinite_ofRatio_iff`) and for integers
(`ofInt?_eq_none_iff`).
-/
import MetricAudit.Proofs.Number.Decimal

namespace MetricAudit.Binary64

/-- Half a step more than the largest double. -/
def pastLargest : Nat := (2 ^ 54 - 1) * 2 ^ 970

theorem isNaN_of_isFinite {x : Binary64} (h : x.isFinite = true) : x.isNaN = false := by
  obtain ⟨s, m, k, hc, rfl⟩ := exists_eq_finite h
  rfl

theorem isFinite_pack_iff {negative : Bool} {m k : Nat} :
    (pack negative m k).isFinite = true ↔ Canonical m k := by
  unfold pack
  split <;> simp_all [isFinite]

/-- A quotient has a nearest double if the units it is rounded to are
fewer than 53 bits at the greatest exponent can hold. -/
theorem isFinite_ofUnits_iff {negative : Bool} {a b : Nat} :
    (ofUnits negative a b).isFinite = true ↔ rounded a b < 2 ^ (53 + 2045) := by
  constructor
  · intro hfinite
    rw [← units_ofUnits hfinite]
    exact units_lt _
  · intro hlt
    have hle := significand_le a b
    have hfull := fun h => le_significand (a := a) (b := b) h
    unfold rounded at hlt
    unfold ofUnits
    simp only [Nat.pow_eq]
    generalize hk : exponentFor a b = k at *
    generalize roundDiv a (b * 2 ^ k) = m at *
    -- the more bits the significand has, the less room is left for the exponent
    have hexp : ∀ {n}, 2 ^ n ≤ m → n + k < 53 + 2045 := by
      intro n hn
      have hpow : 2 ^ (n + k) ≤ m * 2 ^ k := by
        rw [Nat.pow_add]
        exact Nat.mul_le_mul_right _ hn
      have hpow_lt := hpow.trans_lt hlt
      rwa [pow_lt_pow_iff_right₀ one_lt_two] at hpow_lt
    split
    · rename_i hm
      refine isFinite_pack_iff.mpr ⟨hm, ?_, ?_⟩
      · exact (Nat.eq_zero_or_pos k).symm.imp (fun hpos => hfull (Nat.ne_of_gt hpos)) id
      · rcases Nat.eq_zero_or_pos k with rfl | hpos
        · exact Nat.zero_le _
        · have := hexp (hfull (Nat.ne_of_gt hpos))
          omega
    · rename_i hm
      have := hexp (n := 53) (Nat.not_lt.mp hm)
      exact isFinite_pack_iff.mpr ⟨by decide, Or.inl (Nat.le_refl _), by omega⟩

/-- What is rounded past the largest double is at least half a step past
it. -/
theorem rounded_lt_iff {a b : Nat} (hb : 0 < b) :
    rounded a b < 2 ^ (53 + 2045) ↔ (a : ℚ) / b < (pastLargest * 2 ^ unitPlaces : Nat) := by
  have hb' : (0 : ℚ) < b := by exact_mod_cast hb
  -- the largest double and the next one, were there one, are equally far from the border
  obtain ⟨largest, hlargest⟩ : ∃ n, n = (2 ^ 53 - 1) * 2 ^ 2045 := ⟨_, rfl⟩
  obtain ⟨next, hnext⟩ : ∃ n, n = 2 ^ (53 + 2045) := ⟨_, rfl⟩
  obtain ⟨border, hborder⟩ : ∃ n, n = pastLargest * 2 ^ unitPlaces := ⟨_, rfl⟩
  have hmiddle : largest + next = 2 * border := by
    rw [hlargest, hnext, hborder]
    decide +kernel
  have hbelow : largest < next := by
    rw [hlargest, hnext]
    decide +kernel
  rw [← hnext, ← hborder]
  constructor
  · intro hlt
    by_contra hge
    have hpast : next ≤ rounded border 1 := by
      rw [hnext, hborder]
      decide +kernel
    rw [not_lt, le_div_iff₀ hb'] at hge
    have hmono : rounded border 1 ≤ rounded a b := by
      refine rounded_mono one_pos hb ?_
      rw [Nat.mul_one]
      exact_mod_cast hge
    exact (hpast.trans hmono).not_gt hlt
  · intro hlt
    by_contra hge
    rw [not_lt] at hge
    have hne : (2 ^ 53 - 1) * 2 ^ 2045 ≠ rounded a b := by
      rw [← hlargest]
      exact (hbelow.trans_le hge).ne
    have hnear := (abs_sub_rounded_le a hb (by decide) hne).1
    rw [← hlargest] at hnear
    have hmiddle' : (largest : ℚ) + next = 2 * border := by exact_mod_cast hmiddle
    have hbelow' : (largest : ℚ) < next := by exact_mod_cast hbelow
    have hge' : (next : ℚ) ≤ rounded a b := by exact_mod_cast hge
    have hfar : |(a : ℚ) / b - largest| < next - (a : ℚ) / b := by
      rw [abs_lt]
      constructor <;> linarith
    rw [abs_of_nonpos (by linarith)] at hnear
    linarith

/-- A quotient has a nearest double up to half a step past the largest
one. -/
theorem isFinite_ofRatio_iff {negative : Bool} {a b : Nat} (hb : 0 < b) :
    (ofRatio negative a b).isFinite = true ↔ (a : ℚ) / b < pastLargest := by
  have hb' : (0 : ℚ) < b := by exact_mod_cast hb
  rw [ofRatio, Nat.pow_eq, isFinite_ofUnits_iff, rounded_lt_iff hb]
  generalize unitPlaces = p
  have hpow : (0 : ℚ) < 2 ^ p := by positivity
  push_cast
  rw [mul_div_right_comm, mul_lt_mul_iff_left₀ hpow]

theorem isFinite_ofRatio_one_iff {negative : Bool} {n : Nat} :
    (ofRatio negative n 1).isFinite = true ↔ n < pastLargest := by
  rw [isFinite_ofRatio_iff one_pos, Nat.cast_one, div_one, Nat.cast_lt]

/-- The double of an integer is the nearest one, where there is one. -/
theorem ofInt?_eq_some_iff {n : Int} {x : Binary64} :
    ofInt? n = some x ↔ n.natAbs < pastLargest ∧ x = ofRatio (decide (n < 0)) n.natAbs 1 := by
  have hrange : (ofRatio (decide (n < 0)) n.natAbs 1).isFinite = true ↔ n.natAbs < pastLargest :=
    isFinite_ofRatio_one_iff
  unfold ofInt?
  rw [← hrange]
  generalize ofRatio (decide (n < 0)) n.natAbs 1 = y
  cases hy : y.isFinite <;> simp [hy, eq_comm]

theorem ofInt?_eq_none_iff {n : Int} : ofInt? n = none ↔ pastLargest ≤ n.natAbs := by
  rw [Option.eq_none_iff_forall_ne_some, ← not_lt]
  constructor
  · exact fun h hlt => h _ (ofInt?_eq_some_iff.mpr ⟨hlt, rfl⟩)
  · exact fun h x hx => h (ofInt?_eq_some_iff.mp hx).1

end MetricAudit.Binary64
