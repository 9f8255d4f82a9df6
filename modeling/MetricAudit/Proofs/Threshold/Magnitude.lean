/-
MetricAudit.Proofs.Threshold.Magnitude — which texts are magnitudes, and
of which numbers.

Two grammars say what may be written: numerals with a sign and an
exponent for a single number (`Numeral.Writes`), and digits with a
fraction for the sides of a ratio (`Numeral.WritesUnsigned`). What a
numeral comes to is the double nearest to it (`Binary64.IsNearest`), and a
numeral past the range of the doubles writes nothing
(`exists_parse?_iff`).

`parse?_reads_numerals` is the main theorem: the reader takes the texts
of the grammars for their numbers, and no others. The reader decides by
the first slash. No numeral holds one, so a text has at most one reading
and the sides of a ratio, read by themselves, are its numbers.
-/
import MetricAudit.Proofs.Number.Nearest
import MetricAudit.Proofs.Threshold.RoundTrip

namespace MetricAudit

open Binary64 (IsNearest)

namespace Numeral

/-- A finite value of a numeral is its number correctly rounded. -/
theorem isNearest_iff {n : Numeral} {x : Binary64} :
    IsNearest n.negative n.decimal.value x ↔ n.value.isFinite = true ∧ n.value = x :=
  Decimal.isNearest_toBinary64_iff

end Numeral

namespace Magnitude

/-- The text writes the number `x`. -/
def WritesNumber (body : Text) (x : Binary64) : Prop :=
  ∃ n, Numeral.Writes n body ∧ IsNearest n.negative n.decimal.value x

/-- The text writes `x` as a side of a ratio. -/
def WritesSide (side : Text) (x : Binary64) : Prop :=
  ∃ n, Numeral.WritesUnsigned n side ∧ IsNearest false n.decimal.value x

/-- The text writes the ratio of `x` and `y`. -/
def WritesRatio (body : Text) (x y : Binary64) : Prop :=
  ∃ left right, body = left ++ '/' :: right ∧ WritesSide left x ∧ WritesSide right y

/-! ## Single numbers -/

theorem parse?_eq_scalar_iff {body : Text} {x : Binary64} :
    parse? body = some (.scalar x) ↔ WritesNumber body x := by
  constructor
  · intro h
    have hfinite : x.isFinite = true := isReadable_of_parse? h
    rcases parse?_cases h with ⟨left, right, n, d, -, -, -, hm⟩ | ⟨-, n, hn, hm⟩
    · cases hm
    · obtain rfl := Magnitude.scalar.inj hm
      exact ⟨n, Numeral.signed?_eq_some_iff.mp hn, Numeral.isNearest_iff.mpr ⟨hfinite, rfl⟩⟩
  · rintro ⟨n, hwrites, hnear⟩
    obtain ⟨hfinite, rfl⟩ := Numeral.isNearest_iff.mp hnear
    exact parse?_of_signed? (Numeral.signed?_eq_some_iff.mpr hwrites) hfinite

/-- A numeral is read exactly if it is in the range of the doubles. -/
theorem exists_parse?_iff {body : Text} {n : Numeral} (h : Numeral.Writes n body) :
    (∃ x, parse? body = some (.scalar x)) ↔ n.decimal.value < Binary64.pastLargest := by
  have hread := Numeral.signed?_eq_some_iff.mpr h
  constructor
  · rintro ⟨x, hx⟩
    obtain ⟨n', hwrites, hnear⟩ := parse?_eq_scalar_iff.mp hx
    have hread' := Numeral.signed?_eq_some_iff.mpr hwrites
    rw [hread] at hread'
    obtain rfl := Option.some.inj hread'
    exact hnear.inRange
  · intro hrange
    exact ⟨n.value, parse?_of_signed? hread (Decimal.isFinite_toBinary64_iff.mpr hrange)⟩

/-! ## Ratios -/

/-- A side is read as an unsigned numeral of a finite value. -/
theorem writesSide_iff {side : Text} {x : Binary64} :
    WritesSide side x ↔
      ∃ n, Numeral.unsigned? side = some n ∧ n.finiteValue? = some x := by
  unfold WritesSide
  refine exists_congr fun n => ?_
  rw [Numeral.unsigned?_eq_some_iff, Numeral.finiteValue?_eq_some_iff, ← Numeral.isNearest_iff]
  refine and_congr_right fun hwrites => ?_
  rw [Numeral.negative_of_unsigned? (Numeral.unsigned?_eq_some_iff.mpr hwrites)]

theorem parse?_eq_ratio_iff {body : Text} {x y : Binary64} :
    parse? body = some (.ratio x y) ↔ WritesRatio body x y := by
  constructor
  · intro h
    obtain ⟨⟨hx, -⟩, hy, -⟩ := isReadable_of_parse? h
    rcases parse?_cases h with ⟨left, right, n, d, hbody, hn, hd, hm⟩ | ⟨-, n, -, hm⟩
    · obtain ⟨rfl, rfl⟩ := Magnitude.ratio.inj hm
      exact ⟨left, right, hbody,
        writesSide_iff.mpr ⟨n, hn, Numeral.finiteValue?_eq_some_iff.mpr ⟨hx, rfl⟩⟩,
        writesSide_iff.mpr ⟨d, hd, Numeral.finiteValue?_eq_some_iff.mpr ⟨hy, rfl⟩⟩⟩
    · cases hm
  · rintro ⟨left, right, rfl, hleft, hright⟩
    obtain ⟨n, hn, hx⟩ := writesSide_iff.mp hleft
    obtain ⟨d, hd, hy⟩ := writesSide_iff.mp hright
    rw [parse?_slash fun c hc =>
      Numeral.isNumeralChar_of_isDecimalChar (Numeral.isDecimalChar_of_unsigned? hn c hc)]
    simp [ofSides?, hn, hd, hx, hy]

/-- A side writes, by itself, the same number, and no negative one. -/
theorem WritesSide.writesNumber {side : Text} {x : Binary64} (h : WritesSide side x) :
    WritesNumber side x ∧ x.isNegative = false := by
  obtain ⟨n, hwrites, hnear⟩ := h
  have hsign := Numeral.negative_of_unsigned? (Numeral.unsigned?_eq_some_iff.mpr hwrites)
  exact ⟨⟨n, hwrites.writes, by rwa [hsign]⟩, hnear.isNegative⟩

/-- A text has one slash at most that stands between numerals. -/
theorem WritesRatio.sides {left right : Text} {x y : Binary64}
    (h : WritesRatio (left ++ '/' :: right) x y) : WritesSide left x ∧ WritesSide right y := by
  obtain ⟨left', right', hbody, hleft, hright⟩ := h
  have hnone : ∀ {side : Text} {z : Binary64}, WritesSide side z → '/' ∉ side := by
    intro side z hside hmem
    obtain ⟨n, hn, -⟩ := writesSide_iff.mp hside
    cases Numeral.isDecimalChar_of_unsigned? hn '/' hmem
  obtain ⟨rfl, -, rfl⟩ :=
    (List.append_cons_inj_of_notMem (hnone hleft) (hnone hright)).mp hbody.symm
  exact ⟨hleft, hright⟩

/-! ## The reader -/

theorem isCompleteRatio_iff {body : Text} :
    isCompleteRatio body = true ↔ ∃ x y, parse? body = some (.ratio x y) := by
  unfold isCompleteRatio
  cases hm : parse? body with
  | none => simp
  | some m => cases m <;> simp [isRatio]

/-- **The magnitudes are the numerals and the ratios.** A text is read as a
number exactly if it writes that number, as a ratio exactly if it writes
that ratio, and as nothing if it writes neither. The sides of a ratio are
read as its numbers, neither of them negative. -/
theorem parse?_reads_numerals (body : Text) :
    (∀ x, parse? body = some (.scalar x) ↔ WritesNumber body x) ∧
      (∀ x y, parse? body = some (.ratio x y) ↔ WritesRatio body x y) ∧
      (parse? body = none ↔ (¬∃ x, WritesNumber body x) ∧ ¬∃ x y, WritesRatio body x y) ∧
      (∀ left right x y, body = left ++ '/' :: right → parse? body = some (.ratio x y) →
        parse? left = some (.scalar x) ∧ parse? right = some (.scalar y) ∧
          x.isNegative = false ∧ y.isNegative = false) ∧
      (isCompleteRatio body = true ↔ ∃ x y, WritesRatio body x y) := by
  refine ⟨fun x => parse?_eq_scalar_iff, fun x y => parse?_eq_ratio_iff, ?_, ?_, ?_⟩
  · simp only [← parse?_eq_scalar_iff, ← parse?_eq_ratio_iff]
    constructor
    · intro hnone
      simp [hnone]
    · rintro ⟨hscalar, hratio⟩
      cases hm : parse? body with
      | none => rfl
      | some m =>
        cases m with
        | scalar x => exact absurd ⟨x, hm⟩ hscalar
        | ratio x y => exact absurd ⟨x, y, hm⟩ hratio
  · rintro left right x y rfl h
    obtain ⟨hleft, hright⟩ := (parse?_eq_ratio_iff.mp h).sides
    obtain ⟨hnumber, hx⟩ := hleft.writesNumber
    obtain ⟨hnumber', hy⟩ := hright.writesNumber
    exact ⟨parse?_eq_scalar_iff.mpr hnumber, parse?_eq_scalar_iff.mpr hnumber', hx, hy⟩
  · simp only [isCompleteRatio_iff, parse?_eq_ratio_iff]

/-- Both sides of `10/2.5` are numbers. -/
theorem parse?_reads_numerals_ratio :
    ∃ x y, WritesRatio "10/2.5" x y ∧ parse? "10" = some (.scalar x) ∧
      parse? "2.5" = some (.scalar y) ∧ x.isNegative = false ∧ y.isNegative = false := by
  obtain ⟨-, hratio, -, hsides, hcomplete⟩ := parse?_reads_numerals "10/2.5"
  have hread : isCompleteRatio "10/2.5" = true := by decide +kernel
  obtain ⟨x, y, hwrites⟩ := hcomplete.mp hread
  exact ⟨x, y, hwrites, hsides "10" "2.5" x y rfl ((hratio x y).mpr hwrites)⟩

end Magnitude
end MetricAudit
