/-
MetricAudit.Proofs.Metric.Divisor — which values a variable may have.

`StandsFor` says which number a value is: a truth value is zero or one, an
integer the nearest double, and a text the number that it enters. A value
is accepted exactly if it stands for a number, not `nan`, that the formula
does not divide by while it is zero (`check?_characterized`).

Values of two kinds have no verdict at all (`IsBeyond`). An integer past
the largest double is a number that no double stands for; and what is no
number may be impossible to show in the verdict on it, for want of room
for its levels or because of a long integer in it.
-/
import MetricAudit.Metric.Divisor
import MetricAudit.Proofs.Data.Extent
import MetricAudit.Proofs.Formula.Division
import MetricAudit.Proofs.Number.Entered
import MetricAudit.Proofs.Number.Range

namespace MetricAudit.Divisor

/-- A value stands for a number. -/
inductive StandsFor : Data → Binary64 → Prop
  | no : StandsFor (.bool false) (.zero false)
  | yes : StandsFor (.bool true) .one
  | integer {n : Int} (hrange : n.natAbs < Binary64.pastLargest) :
      StandsFor (.integer n) (.ofRatio (decide (n < 0)) n.natAbs 1)
  | real (x : Binary64) : StandsFor (.real x) x
  | text {s : Text} {x : Binary64} (hentered : Numeral.Enters s x) : StandsFor (.text s) x

/-- A verdict can show a value. -/
def CanShow (shows : Data → Bool) (value : Data) : Prop :=
  shows value = true ∧ value.integerDigits ≤ DigitLimit.most

/-- A value is beyond judgement: an integer that is past the doubles, or
something that is no number and cannot be shown. -/
inductive IsBeyond (shows : Data → Bool) : Data → Prop
  | integer {n : Int} (hpast : Binary64.pastLargest ≤ n.natAbs) : IsBeyond shows (.integer n)
  | unshown {value : Data} (hinteger : ∀ n, value ≠ .integer n)
      (hnumber : ¬∃ x, StandsFor value x ∧ x.isNaN = false) (hshow : ¬CanShow shows value) :
      IsBeyond shows value

/-! ## Amounts -/

theorem amount_integer (n : Int) : amount (.integer n) = .ofInteger n := rfl

theorem amount_real (x : Binary64) : amount (.real x) = .ofReal x := rfl

theorem amount_text (s : Text) : amount (.text s) = .ofText s := rfl

theorem Amount.ofInteger_eq_number_iff {n : Int} {x : Binary64} :
    ofInteger n = .number x ↔ Binary64.ofInt? n = some x := by
  unfold ofInteger
  cases Binary64.ofInt? n <;> simp

theorem Amount.ofInteger_eq_outOfRange_iff {n : Int} :
    ofInteger n = .outOfRange ↔ Binary64.pastLargest ≤ n.natAbs := by
  rw [← Binary64.ofInt?_eq_none_iff]
  unfold ofInteger
  cases Binary64.ofInt? n <;> simp

theorem Amount.ofInteger_ne_notANumber (n : Int) : ofInteger n ≠ .notANumber := by
  unfold ofInteger
  cases Binary64.ofInt? n <;> simp

theorem Amount.ofReal_eq_number_iff {x y : Binary64} :
    ofReal x = .number y ↔ x = y ∧ y.isNaN = false := by
  unfold ofReal
  cases h : x.isNaN <;> grind

theorem Amount.ofReal_ne_outOfRange (x : Binary64) : ofReal x ≠ .outOfRange := by
  unfold ofReal
  cases x.isNaN <;> simp

theorem Amount.ofText_eq_number_iff {s : Text} {x : Binary64} :
    ofText s = .number x ↔ Numeral.entered? s = some x ∧ x.isNaN = false := by
  unfold ofText
  cases Numeral.entered? s <;> simp [ofReal_eq_number_iff]

theorem Amount.ofText_ne_outOfRange (s : Text) : ofText s ≠ .outOfRange := by
  unfold ofText
  cases Numeral.entered? s <;> simp [ofReal_ne_outOfRange]

/-- What a value amounts to is the number that it stands for. -/
theorem amount_eq_number_iff {value : Data} {x : Binary64} :
    amount value = .number x ↔ StandsFor value x ∧ x.isNaN = false := by
  constructor
  · intro h
    cases value with
    | bool b =>
      cases h
      cases b with
      | false => exact ⟨.no, rfl⟩
      | true => exact ⟨.yes, rfl⟩
    | integer n =>
      rw [amount_integer] at h
      obtain ⟨hrange, rfl⟩ := Binary64.ofInt?_eq_some_iff.mp (Amount.ofInteger_eq_number_iff.mp h)
      exact ⟨.integer hrange, Binary64.isNaN_of_isFinite
        (Binary64.isFinite_ofRatio_one_iff.mpr hrange)⟩
    | real y =>
      rw [amount_real] at h
      obtain ⟨rfl, hnan⟩ := Amount.ofReal_eq_number_iff.mp h
      exact ⟨.real y, hnan⟩
    | text s =>
      rw [amount_text] at h
      obtain ⟨hread, hnan⟩ := Amount.ofText_eq_number_iff.mp h
      exact ⟨.text (Numeral.entered?_eq_some_iff.mp hread), hnan⟩
    | _ => cases h
  · rintro ⟨hstands, hnan⟩
    cases hstands with
    | no => rfl
    | yes => rfl
    | integer hrange =>
      rw [amount_integer]
      exact Amount.ofInteger_eq_number_iff.mpr (Binary64.ofInt?_eq_some_iff.mpr ⟨hrange, rfl⟩)
    | real =>
      rw [amount_real]
      exact Amount.ofReal_eq_number_iff.mpr ⟨rfl, hnan⟩
    | text hentered =>
      rw [amount_text]
      exact Amount.ofText_eq_number_iff.mpr ⟨Numeral.entered?_eq_some_iff.mpr hentered, hnan⟩

/-- Only an integer is out of range. -/
theorem amount_eq_outOfRange_iff {value : Data} :
    amount value = .outOfRange ↔ ∃ n, value = .integer n ∧ Binary64.pastLargest ≤ n.natAbs := by
  cases value with
  | integer n => simp [amount_integer, Amount.ofInteger_eq_outOfRange_iff]
  | real x => simp [amount_real, Amount.ofReal_ne_outOfRange]
  | text s => simp [amount_text, Amount.ofText_ne_outOfRange]
  | _ => simp [amount]

/-! ## Verdicts -/

section
variable {shows : Data → Bool}

theorem check?_of_number {value : Data} {x : Binary64} (h : amount value = .number x)
    (symbol formula : Text) :
    check? shows value symbol formula =
      some (if x.isZero && Formula.isDenominator formula symbol then
        .fail ("0 cannot be used for " ++ symbol ++ ": it is the denominator of a division")
      else .fine) := by
  rw [check?, h]
  dsimp only
  split <;> rfl

theorem check?_of_notANumber {value : Data} (h : amount value = .notANumber)
    (symbol formula : Text) :
    check? shows value symbol formula =
      if isShowable shows value then
        some (.fail ("Value " ++ value.shown ++ " for " ++ symbol ++ " is not a number"))
      else none := by
  rw [check?, h]

theorem check?_of_outOfRange {value : Data} (h : amount value = .outOfRange)
    (symbol formula : Text) : check? shows value symbol formula = none := by
  rw [check?, h]

/-- A finite number is refused for one reason only: it is zero, and the
formula divides by the symbol. -/
theorem check?_real {x : Binary64} (hx : x.isFinite = true) (symbol formula : Text) :
    check? shows (.real x) symbol formula =
      some (if x.isZero && Formula.isDenominator formula symbol then
        .fail ("0 cannot be used for " ++ symbol ++ ": it is the denominator of a division")
      else .fine) :=
  check?_of_number (amount_eq_number_iff.mpr ⟨.real x, Binary64.isNaN_of_isFinite hx⟩) symbol
    formula

theorem isShowable_iff {value : Data} : isShowable shows value = true ↔ CanShow shows value := by
  simp [isShowable, CanShow]

theorem check?_eq_none_iff_amount {value : Data} {symbol formula : Text} :
    check? shows value symbol formula = none ↔
      amount value = .outOfRange ∨ amount value = .notANumber ∧ ¬CanShow shows value := by
  rw [← isShowable_iff]
  cases h : amount value with
  | number x =>
    rw [check?_of_number h]
    exact iff_of_false (Option.some_ne_none _) (by rintro (h | ⟨h, -⟩) <;> cases h)
  | notANumber =>
    rw [check?_of_notANumber h]
    cases isShowable shows value <;> simp
  | outOfRange =>
    rw [check?_of_outOfRange h]
    simp

/-- What is no integer and stands for no number is none. -/
theorem amount_eq_notANumber_iff {value : Data} :
    amount value = .notANumber ↔
      (∀ n, value ≠ .integer n) ∧ ¬∃ x, StandsFor value x ∧ x.isNaN = false := by
  simp only [← amount_eq_number_iff]
  constructor
  · intro h
    refine ⟨?_, by simp [h]⟩
    rintro n rfl
    exact Amount.ofInteger_ne_notANumber n h
  · rintro ⟨hinteger, hnumber⟩
    cases h : amount value with
    | number x => exact absurd ⟨x, h⟩ hnumber
    | notANumber => rfl
    | outOfRange =>
      obtain ⟨n, hn, -⟩ := amount_eq_outOfRange_iff.mp h
      exact absurd hn (hinteger n)

/-- The values without a verdict are those that are beyond judgement. -/
theorem check?_eq_none_iff (value : Data) (symbol formula : Text) :
    check? shows value symbol formula = none ↔ IsBeyond shows value := by
  rw [check?_eq_none_iff_amount, amount_eq_outOfRange_iff, amount_eq_notANumber_iff]
  constructor
  · rintro (⟨n, rfl, hpast⟩ | ⟨⟨hinteger, hnumber⟩, hshow⟩)
    · exact .integer hpast
    · exact .unshown hinteger hnumber hshow
  · rintro (hpast | ⟨hinteger, hnumber, hshow⟩)
    · exact .inl ⟨_, rfl, hpast⟩
    · exact .inr ⟨⟨hinteger, hnumber⟩, hshow⟩

/-- An accepted value amounts to a number that may be used. -/
theorem exists_valid_iff {value : Data} {symbol formula : Text} :
    (∃ verdict, check? shows value symbol formula = some verdict ∧ verdict.valid = true) ↔
      ∃ x, amount value = .number x ∧
        (x.isZero = false ∨ Formula.isDenominator formula symbol = false) := by
  cases h : amount value with
  | number x =>
    simp only [check?_of_number h, Option.some.injEq, exists_eq_left', Amount.number.injEq]
    cases x.isZero <;> cases Formula.isDenominator formula symbol <;>
      simp [Verdict.valid, Verdict.fail, Verdict.fine]
  | notANumber =>
    rw [check?_of_notANumber h]
    cases isShowable shows value <;> simp [Verdict.valid, Verdict.fail]
  | outOfRange => simp [check?_of_outOfRange h]

end

/-- **Which values a variable may have.** A value has a verdict unless it
is beyond judgement, and it is accepted if it stands for a number that is
not zero, or that the formula does not divide by. -/
theorem check?_characterized (shows : Data → Bool) (value : Data) (symbol formula : Text) :
    ((∃ verdict, check? shows value symbol formula = some verdict) ↔ ¬IsBeyond shows value) ∧
    ((∃ verdict, check? shows value symbol formula = some verdict ∧ verdict.valid = true) ↔
      ∃ x, StandsFor value x ∧ x.isNaN = false ∧
        (x.isZero = false ∨ symbol ∉ Formula.denominators formula)) := by
  have hdivides : Formula.isDenominator formula symbol = false ↔
      symbol ∉ Formula.denominators formula := by
    rw [← Bool.not_eq_true, Formula.isDenominator_iff_mem]
  constructor
  · rw [← check?_eq_none_iff value symbol formula, ← Ne,
      Option.ne_none_iff_exists']
  · simp only [exists_valid_iff, amount_eq_number_iff, hdivides, and_assoc]

/-- A text that enters a number too near to zero for a double enters
zero. -/
example : (check? (fun _ => true) (.text " +1_0e-\u0664\u0660\u0660 ") "B" "A/B").map
    Verdict.valid = some false := by
  decide +kernel

/-- An integer of 401 digits has no verdict, whatever can be shown. -/
theorem not_forall_exists_check? :
    ¬∃ shows, ∀ (value : Data) (symbol formula : Text),
      ∃ verdict, check? shows value symbol formula = some verdict := by
  rintro ⟨shows, h⟩
  obtain ⟨verdict, hverdict⟩ := h (.integer (10 ^ 400)) "B" "A/B"
  have hpast : Binary64.pastLargest ≤ (10 ^ 400 : Int).natAbs := by decide +kernel
  rw [(check?_eq_none_iff _ _ _).mpr (.integer hpast)] at hverdict
  cases hverdict

end MetricAudit.Divisor
