/-
MetricAudit.Proofs.Number.Digits — runs of decimal digits and the numbers
they write.

A run of digits writes one number, in place values: putting runs together
multiplies and adds (`natOfDigits_append`). The digits that a number is
written in write that number (`natOfDigits_ofNat`), and their length is
its order of magnitude (`pow_le_iff_lt_length`).
-/
import Mathlib.Algebra.Order.Ring.Nat
import Mathlib.Data.List.DropRight
import Mathlib.Tactic.Ring
import MetricAudit.Text.DecimalDigit

namespace MetricAudit.Text

/-! ## Place values -/

theorem natOfDigits_append (s t : Text) :
    natOfDigits (s ++ t) = natOfDigits s * 10 ^ t.length + natOfDigits t := by
  induction t using List.reverseRecOn with
  | nil => simp [natOfDigits]
  | append_singleton t c ih =>
    have hlast : ∀ u : Text, natOfDigits (u ++ [c]) = 10 * natOfDigits u + asciiDigitValue c := by
      intro u
      simp [natOfDigits]
    rw [← List.append_assoc, hlast, hlast, ih, List.length_append, List.length_singleton]
    ring

theorem natOfDigits_zeros (n : Nat) : natOfDigits (List.replicate n '0') = 0 := by
  induction n with
  | zero => rfl
  | succ n ih =>
    have hzero : natOfDigits ['0'] = 0 := rfl
    rw [List.replicate_succ, ← List.singleton_append, natOfDigits_append, ih, hzero,
      Nat.zero_mul]

theorem natOfDigits_zeros_append (n : Nat) (s : Text) :
    natOfDigits (List.replicate n '0' ++ s) = natOfDigits s := by
  rw [natOfDigits_append, natOfDigits_zeros, Nat.zero_mul, Nat.zero_add]

theorem natOfDigits_append_zeros (s : Text) (n : Nat) :
    natOfDigits (s ++ List.replicate n '0') = natOfDigits s * 10 ^ n := by
  rw [natOfDigits_append, natOfDigits_zeros, List.length_replicate, Nat.add_zero]

/-! ## The digits of a number -/

theorem natOfDigits_ofNat (n : Nat) : natOfDigits (ofNat n) = n :=
  Nat.ofDigitChars_toDigits (by decide) (by decide)

theorem isAsciiDigit_eq_isDigit (c : Char) : isAsciiDigit c = c.isDigit := by
  rw [Bool.eq_iff_iff, Char.isDigit_iff_toNat, isAsciiDigit, Bool.and_eq_true,
    decide_eq_true_eq, decide_eq_true_eq]
  rfl

theorem isAsciiDigit_of_mem_ofNat {n : Nat} {c : Char} (hc : c ∈ ofNat n) :
    isAsciiDigit c = true := by
  rw [isAsciiDigit_eq_isDigit]
  exact Nat.isDigit_of_mem_toDigits (by decide) (by decide) hc

theorem ofNat_ne_nil (n : Nat) : ofNat n ≠ [] := Nat.toDigits_ne_nil

/-- The number of digits is the order of magnitude. -/
theorem pow_le_iff_lt_length {n k : Nat} (hn : n ≠ 0) : 10 ^ k ≤ n ↔ k < (ofNat n).length := by
  rcases Nat.eq_zero_or_pos k with rfl | hk
  · have hpos : 0 < (ofNat n).length := Nat.length_toDigits_pos
    exact iff_of_true (by omega) hpos
  · have hle := Nat.length_toDigits_le_iff (b := 10) (n := n) (by decide) hk
    rw [← ofNat] at hle
    omega

theorem length_ofNat_le {n k : Nat} (hn : n < 10 ^ k) (hk : 0 < k) : (ofNat n).length ≤ k := by
  rcases Nat.eq_zero_or_pos n with rfl | hpos
  · exact hk
  · exact not_lt.mp fun hlt => hn.not_ge ((pow_le_iff_lt_length hpos.ne').mpr hlt)

/-- A run of digits writes a number of no more digits. -/
theorem natOfDigits_lt_pow {digits : Text} (h : ∀ c ∈ digits, isAsciiDigit c = true) :
    natOfDigits digits < 10 ^ digits.length := by
  induction digits using List.reverseRecOn with
  | nil => exact Nat.one_pos
  | append_singleton s c ih =>
    have hs := ih fun d hd => h d (List.mem_append_left _ hd)
    have hc : natOfDigits [c] ≤ 9 := by
      have hdigit := h c (by simp)
      rw [isAsciiDigit_eq_isDigit, Char.isDigit_iff_toNat] at hdigit
      have hzero : '0'.toNat = 48 := rfl
      have hnine : '9'.toNat = 57 := rfl
      simp only [natOfDigits, asciiDigitValue, List.foldl_cons, List.foldl_nil]
      omega
    rw [natOfDigits_append, List.length_append, List.length_singleton, Nat.pow_one,
      Nat.pow_succ]
    omega

/-! ## The first digit -/

theorem ofNat_natOfDigits_singleton {c : Char} (hc : isAsciiDigit c = true) :
    ofNat (natOfDigits [c]) = [c] := by
  have hlt : natOfDigits [c] < 10 := natOfDigits_lt_pow (List.forall_mem_singleton.mpr hc)
  have hvalue : natOfDigits [c] = c.toNat - 48 := by
    simp [natOfDigits, asciiDigitValue]
  rw [isAsciiDigit_eq_isDigit, Char.isDigit_iff_toNat] at hc
  have hzero : '0'.toNat = 48 := rfl
  have hchar : (natOfDigits [c]).digitChar.toNat = c.toNat := by
    rw [Nat.toNat_digitChar_of_lt_ten hlt, hvalue]
    omega
  rw [ofNat, Nat.toDigits_of_lt_base hlt, Char.toNat_inj.mp hchar]

/-- A run of digits that does not start with zero is how its number is
written. -/
theorem ofNat_natOfDigits {s : Text} (hne : s ≠ []) (hs : ∀ c ∈ s, isAsciiDigit c = true)
    (hhead : s.head? ≠ some '0') : ofNat (natOfDigits s) = s := by
  induction s using List.reverseRecOn with
  | nil => exact absurd rfl hne
  | append_singleton s c ih =>
    have hc : isAsciiDigit c = true := hs c (by simp)
    have hlt : natOfDigits [c] < 10 := natOfDigits_lt_pow (List.forall_mem_singleton.mpr hc)
    cases s with
    | nil => exact ofNat_natOfDigits_singleton hc
    | cons d ds =>
      have hstart : ofNat (natOfDigits (d :: ds)) = d :: ds :=
        ih (List.cons_ne_nil d ds) (fun b hb => hs b (List.mem_append_left _ hb)) hhead
      have hpos : 0 < natOfDigits (d :: ds) := by
        refine Nat.pos_of_ne_zero fun hzero => hhead ?_
        rw [← hstart, hzero]
        rfl
      rw [natOfDigits_append, List.length_singleton, Nat.pow_one, Nat.mul_comm, ofNat,
        ← Nat.toDigits_append_toDigits (by decide) hpos hlt]
      exact congrArg₂ (· ++ ·) hstart (ofNat_natOfDigits_singleton hc)

/-- A number other than zero is not written with a zero at its front. -/
theorem head?_ofNat_ne {n : Nat} (hn : n ≠ 0) : (ofNat n).head? ≠ some '0' := by
  intro hhead
  obtain ⟨t, ht⟩ := List.head?_eq_some_iff.mp hhead
  have hdigits : ∀ c ∈ t, isAsciiDigit c = true := fun c hc =>
    isAsciiDigit_of_mem_ofNat (n := n) (ht ▸ List.mem_cons_of_mem '0' hc)
  have hle : 10 ^ t.length ≤ n := (pow_le_iff_lt_length hn).mpr (by simp [ht])
  have hvalue : natOfDigits t = n := by
    rw [← natOfDigits_ofNat n, ht, ← natOfDigits_zeros_append 1 t]
    rfl
  exact (natOfDigits_lt_pow hdigits).not_ge (hvalue ▸ hle)

/-! ## Zeros at the end -/

/-- A run of digits without the zeros at its end. -/
def dropZeros (s : Text) : Text := dropWhileEnd (· == '0') s

theorem dropZeros_eq (s : Text) : dropZeros s = s.rdropWhile (· == '0') := by
  rw [List.rdropWhile, ← reverse_dropWhileEnd, List.reverse_reverse]
  rfl

theorem exists_eq_dropZeros (s : Text) :
    ∃ n, s = dropZeros s ++ List.replicate n '0' := by
  refine ⟨(s.rtakeWhile (· == '0')).length, ?_⟩
  have hzeros : s.rtakeWhile (· == '0') =
      List.replicate (s.rtakeWhile (· == '0')).length '0' := by
    rw [List.eq_replicate_iff]
    exact ⟨rfl, fun c hc => by simpa using List.mem_rtakeWhile_imp hc⟩
  rw [← hzeros, dropZeros_eq, List.rdropWhile_append_rtakeWhile]

theorem mem_of_mem_dropZeros {s : Text} {c : Char} (hc : c ∈ dropZeros s) : c ∈ s := by
  rw [dropZeros_eq] at hc
  exact (List.rdropWhile_prefix _ _).subset hc

/-- The digits of a number other than zero are not all zeros. -/
theorem dropZeros_ofNat_ne_nil {n : Nat} (hn : n ≠ 0) : dropZeros (ofNat n) ≠ [] := by
  intro hnil
  obtain ⟨z, hz⟩ := exists_eq_dropZeros (ofNat n)
  rw [hnil, List.nil_append] at hz
  apply hn
  rw [← natOfDigits_ofNat n, hz, natOfDigits_zeros]

end MetricAudit.Text
