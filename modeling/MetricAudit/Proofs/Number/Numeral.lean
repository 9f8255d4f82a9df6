/-
MetricAudit.Proofs.Number.Numeral — the characters of numerals.

The readers of numerals take a text from its front, piece by piece. Each
piece holds characters of numerals only, so a text that is read to its
end does (`isNumeralChar_of_signed?`, `isDecimalChar_of_unsigned?`). In
particular a numeral holds no blank (`isBlank_of_isNumeralChar`), no sign
of a comparison and no last letter of a unit.
-/
import Mathlib.Data.List.TakeDrop
import Mathlib.Data.List.TakeWhile
import MetricAudit.Number.Numeral
import MetricAudit.Proofs.Text.Strip

namespace MetricAudit.Numeral

open Text (isAsciiDigit natOfDigits)

/-- The characters of unsigned numerals. -/
def isDecimalChar (c : Char) : Bool := isAsciiDigit c || c == '.'

/-- The characters of signed numerals with an exponent. -/
def isNumeralChar (c : Char) : Bool :=
  isDecimalChar c || c == '+' || c == '-' || c == 'e' || c == 'E'

theorem isDecimalChar_of_isAsciiDigit {c : Char} (hc : isAsciiDigit c = true) :
    isDecimalChar c = true := by
  simp [isDecimalChar, hc]

theorem isNumeralChar_of_isDecimalChar {c : Char} (hc : isDecimalChar c = true) :
    isNumeralChar c = true := by
  simp [isNumeralChar, hc]

theorem isNumeralChar_of_isAsciiDigit {c : Char} (hc : isAsciiDigit c = true) :
    isNumeralChar c = true :=
  isNumeralChar_of_isDecimalChar (isDecimalChar_of_isAsciiDigit hc)

theorem isBlank_of_isNumeralChar {c : Char} (hc : isNumeralChar c = true) :
    Text.isBlank c = false := by
  rw [← Bool.not_eq_true]
  intro hblank
  simp only [isNumeralChar, isDecimalChar, Text.isAsciiDigit_of_isBlank hblank,
    Text.beq_of_isBlank hblank '.' rfl, Text.beq_of_isBlank hblank '+' rfl,
    Text.beq_of_isBlank hblank '-' rfl, Text.beq_of_isBlank hblank 'e' rfl,
    Text.beq_of_isBlank hblank 'E' rfl, Bool.or_false, Bool.false_eq_true] at hc

/-! ## The pieces -/

theorem takeDigits_eq (s : Text) :
    takeDigits s = (s.takeWhile isAsciiDigit, s.dropWhile isAsciiDigit) :=
  List.span_eq_takeWhile_dropWhile ..

/-- A run of digits is taken whole and alone where no digit follows. -/
theorem takeDigits_append {s rest : Text} (hs : ∀ c ∈ s, isAsciiDigit c = true)
    (hrest : ∀ c ∈ rest.head?, isAsciiDigit c = false) :
    takeDigits (s ++ rest) = (s, rest) := by
  obtain ⟨htake, hdrop⟩ := Text.takeWhile_dropWhile_append hs hrest
  rw [takeDigits_eq, htake, hdrop]

theorem takeDigits_of_digits {s : Text} (hs : ∀ c ∈ s, isAsciiDigit c = true) :
    takeDigits s = (s, []) := by
  have htake : takeDigits (s ++ []) = (s, []) := takeDigits_append hs (by simp)
  rwa [List.append_nil] at htake

theorem mem_takeDigits {c : Char} {s : Text} (hc : c ∈ s) :
    isAsciiDigit c = true ∨ c ∈ (takeDigits s).2 := by
  rw [← List.takeWhile_append_dropWhile (p := isAsciiDigit) (l := s)] at hc
  rw [takeDigits_eq]
  rcases List.mem_append.mp hc with h | h
  · exact Or.inl (List.mem_takeWhile_imp h)
  · exact Or.inr h

theorem takeSign_suffix (s : Text) : (takeSign s).2 <:+ s := by
  unfold takeSign
  split
  · exact List.suffix_cons _ _
  · exact List.suffix_cons _ _
  · exact List.suffix_rfl

theorem mem_takeSign {c : Char} {s : Text} (hc : c ∈ s) :
    isNumeralChar c = true ∨ c ∈ (takeSign s).2 := by
  unfold takeSign
  split
  · rcases List.mem_cons.mp hc with rfl | h
    · exact Or.inl rfl
    · exact Or.inr h
  · rcases List.mem_cons.mp hc with rfl | h
    · exact Or.inl rfl
    · exact Or.inr h
  · exact Or.inr hc

theorem mem_takeFraction {c : Char} {s : Text} (hc : c ∈ s) :
    isDecimalChar c = true ∨ c ∈ (takeFraction s).2 := by
  unfold takeFraction
  split
  · rcases List.mem_cons.mp hc with rfl | h
    · exact Or.inl rfl
    · rcases mem_takeDigits h with h' | h'
      · exact Or.inl (isDecimalChar_of_isAsciiDigit h')
      · exact Or.inr h'
  · exact Or.inr hc

/-- An exponent that ends a numeral, taken apart. -/
theorem exponent?_eq_some {c : Char} {s : Text} {e : Int}
    (h : exponent? (c :: s) = some e) :
    (c = 'e' ∨ c = 'E') ∧ ∃ negative digits, takeSign s = (negative, digits) ∧
      digits ≠ [] ∧ (∀ d ∈ digits, isAsciiDigit d = true) ∧
      e = if negative then -(natOfDigits digits : Int) else natOfDigits digits := by
  simp only [exponent?, takeDigits_eq] at h
  split at h
  · rename_i hmark
    split at h
    · cases h
    · rename_i hends
      simp only [Bool.or_eq_true, Bool.not_eq_true', not_or, Bool.not_eq_false,
        List.isEmpty_iff] at hends
      obtain ⟨hne, hrest⟩ := hends
      have hwhole : (takeSign s).2.takeWhile isAsciiDigit = (takeSign s).2 := by
        rw [← List.append_nil (List.takeWhile _ _), ← hrest, List.takeWhile_append_dropWhile]
      rw [hwhole] at hne h
      exact ⟨hmark, _, _, rfl, hne, List.dropWhile_eq_nil_iff.mp hrest, (Option.some.inj h).symm⟩
  · cases h

theorem isNumeralChar_of_exponent? {s : Text} {n : Int} (h : exponent? s = some n) :
    ∀ c ∈ s, isNumeralChar c = true := by
  intro c hc
  cases s with
  | nil => cases hc
  | cons mark r =>
    obtain ⟨hmark, negative, digits, hsign, -, hdigits, -⟩ := exponent?_eq_some h
    rcases List.mem_cons.mp hc with rfl | hc
    · rcases hmark with rfl | rfl <;> rfl
    · rcases mem_takeSign hc with hc | hc
      · exact hc
      · rw [hsign] at hc
        exact isNumeralChar_of_isAsciiDigit (hdigits c hc)

/-! ## The readers -/

/-- A signed numeral holds characters of numerals only. -/
theorem isNumeralChar_of_signed? {s : Text} {n : Numeral} (h : signed? s = some n) :
    ∀ c ∈ s, isNumeralChar c = true := by
  intro c hc
  simp only [signed?] at h
  split at h
  · cases h
  · obtain ⟨e, he, _⟩ := Option.map_eq_some_iff.mp h
    rcases mem_takeSign hc with hc | hc
    · exact hc
    · rcases mem_takeDigits hc with hc | hc
      · exact isNumeralChar_of_isAsciiDigit hc
      · rcases mem_takeFraction hc with hc | hc
        · exact isNumeralChar_of_isDecimalChar hc
        · exact isNumeralChar_of_exponent? he c hc

/-- An unsigned numeral holds digits and a point only. -/
theorem isDecimalChar_of_unsigned? {s : Text} {n : Numeral} (h : unsigned? s = some n) :
    ∀ c ∈ s, isDecimalChar c = true := by
  intro c hc
  simp only [unsigned?] at h
  split at h
  · cases h
  · rcases mem_takeDigits hc with hc | hc
    · exact isDecimalChar_of_isAsciiDigit hc
    · split at h
      · rename_i hrest
        rw [hrest] at hc
        cases hc
      · rename_i rest hrest
        split at h
        · cases h
        · rename_i hends
          simp only [Bool.or_eq_true, Bool.not_eq_true', not_or, Bool.not_eq_false,
            List.isEmpty_iff] at hends
          rw [hrest] at hc
          rcases List.mem_cons.mp hc with rfl | hc
          · rfl
          · rcases mem_takeDigits hc with hc | hc
            · exact isDecimalChar_of_isAsciiDigit hc
            · rw [hends.2] at hc
              cases hc
      · cases h

end MetricAudit.Numeral
