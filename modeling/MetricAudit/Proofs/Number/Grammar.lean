/-
MetricAudit.Proofs.Number.Grammar — the grammar of numerals.

`Writes n s` is the grammar of signed numerals together with what they
mean: a sign, digits around a point, and an exponent, the sign, the point
and the exponent each where there is one. The reader accepts exactly the
texts of the grammar (`signed?_eq_some_iff`). It takes each part as far as
it goes and never looks back; that nothing is lost by it is seen at the
character after each part, which the part cannot go on with.

`WritesUnsigned` is the smaller grammar without signs and exponents, and
with digits on both sides of a point (`unsigned?_eq_some_iff`).
-/
import MetricAudit.Proofs.Number.Numeral

namespace MetricAudit.Numeral

open Text (isAsciiDigit natOfDigits)

/-- Digits only, or nothing. -/
def AllDigits (s : Text) : Prop := ∀ c ∈ s, isAsciiDigit c = true

/-- A sign where there is one, and whether it is a minus. -/
inductive IsSign : Bool → Text → Prop
  | none : IsSign false []
  | plus : IsSign false ['+']
  | minus : IsSign true ['-']

/-- An exponent where there is one, and what it comes to. -/
inductive IsExponent : Int → Text → Prop
  | none : IsExponent 0 []
  | some {mark : Char} {negative : Bool} {sign digits : Text} (hmark : mark = 'e' ∨ mark = 'E')
      (hsign : IsSign negative sign) (hne : digits ≠ []) (hdigits : AllDigits digits) :
      IsExponent (if negative then -(natOfDigits digits : Int) else natOfDigits digits)
        (mark :: (sign ++ digits))

/-- A fraction behind its point; both may be missing, or the fraction
alone. -/
inductive IsFraction : Text → Text → Prop
  | none : IsFraction [] []
  | point {digits : Text} (hdigits : AllDigits digits) : IsFraction digits ('.' :: digits)

/-- A text writes a numeral. -/
inductive Writes : Numeral → Text → Prop
  | mk {negative : Bool} {sign whole fraction pointed tail : Text} {exponent : Int}
      (hsign : IsSign negative sign) (hwhole : AllDigits whole)
      (hfraction : IsFraction fraction pointed) (hne : whole ≠ [] ∨ fraction ≠ [])
      (htail : IsExponent exponent tail) :
      Writes ⟨negative, whole, fraction, exponent⟩ (sign ++ (whole ++ (pointed ++ tail)))

/-! ## The sign -/

/-- Nothing that is read as a sign. -/
def Unsigned (s : Text) : Prop := ∀ c ∈ s.head?, c ≠ '-' ∧ c ≠ '+'

theorem takeSign_of_unsigned {s : Text} (hs : Unsigned s) : takeSign s = (false, s) := by
  unfold takeSign
  split
  · exact absurd rfl (hs '-' rfl).1
  · exact absurd rfl (hs '+' rfl).2
  · rfl

theorem takeSign_append {negative : Bool} {sign s : Text} (hsign : IsSign negative sign)
    (hs : Unsigned s) : takeSign (sign ++ s) = (negative, s) := by
  cases hsign with
  | none => exact takeSign_of_unsigned hs
  | plus => rfl
  | minus => rfl

/-- A text is its sign and what follows it. -/
theorem exists_eq_takeSign (s : Text) :
    ∃ sign, IsSign (takeSign s).1 sign ∧ s = sign ++ (takeSign s).2 := by
  unfold takeSign
  split
  · exact ⟨_, .minus, rfl⟩
  · exact ⟨_, .plus, rfl⟩
  · exact ⟨_, .none, rfl⟩

theorem unsigned_cons {c : Char} (hc : isAsciiDigit c = true) (s : Text) : Unsigned (c :: s) := by
  intro d hd
  cases hd
  constructor <;> rintro rfl <;> cases hc

theorem unsigned_of_digits {s : Text} (hs : AllDigits s) : Unsigned s := by
  cases s with
  | nil => exact fun c hc => nomatch hc
  | cons c cs => exact unsigned_cons (hs c List.mem_cons_self) cs

/-! ## Digits -/

/-- A text is the digits at its front and what follows them. -/
theorem eq_takeDigits_append (s : Text) :
    AllDigits (takeDigits s).1 ∧ s = (takeDigits s).1 ++ (takeDigits s).2 := by
  rw [takeDigits_eq]
  exact ⟨fun c hc => List.mem_takeWhile_imp hc, (List.takeWhile_append_dropWhile ..).symm⟩

/-! ## The exponent -/

theorem exponent?_eq_some_iff {s : Text} {e : Int} : exponent? s = some e ↔ IsExponent e s := by
  constructor
  · intro h
    cases s with
    | nil =>
      cases h
      exact .none
    | cons mark r =>
      obtain ⟨hmark, negative, digits, hsign, hne, hdigits, rfl⟩ := exponent?_eq_some h
      obtain ⟨sign, hsign', hr⟩ := exists_eq_takeSign r
      rw [hsign] at hsign' hr
      rw [hr]
      exact .some hmark hsign' hne hdigits
  · intro h
    cases h with
    | none => rfl
    | some hmark hsign hne hdigits =>
      rw [exponent?, if_pos hmark, takeSign_append hsign (unsigned_of_digits hdigits)]
      dsimp only
      rw [takeDigits_of_digits hdigits]
      simp [hne]

theorem IsExponent.head?_eq {e : Int} {s : Text} (h : IsExponent e s) :
    ∀ c ∈ s.head?, c = 'e' ∨ c = 'E' := by
  intro c hc
  cases h with
  | none => cases hc
  | some hmark => cases hc; exact hmark

/-! ## The fraction -/

theorem takeFraction_append {fraction pointed tail : Text} (hfraction : IsFraction fraction pointed)
    (hdigit : ∀ c ∈ tail.head?, isAsciiDigit c = false) (hpoint : ∀ c ∈ tail.head?, c ≠ '.') :
    takeFraction (pointed ++ tail) = (fraction, tail) := by
  cases hfraction with
  | none =>
    rw [List.nil_append]
    unfold takeFraction
    split
    · exact absurd rfl (hpoint '.' rfl)
    · rfl
  | point hdigits => exact takeDigits_append hdigits hdigit

theorem exists_eq_takeFraction (s : Text) :
    ∃ pointed, IsFraction (takeFraction s).1 pointed ∧ s = pointed ++ (takeFraction s).2 := by
  unfold takeFraction
  split
  · rename_i r
    obtain ⟨hdigits, hr⟩ := eq_takeDigits_append r
    exact ⟨_, .point hdigits, congrArg (List.cons '.') hr⟩
  · exact ⟨_, .none, rfl⟩

/-! ## Numerals -/

theorem writes_of_signed? {s : Text} {n : Numeral} (h : signed? s = some n) : Writes n s := by
  obtain ⟨sign, hsign, hs⟩ := exists_eq_takeSign s
  obtain ⟨hwhole, hdigits⟩ := eq_takeDigits_append (takeSign s).2
  obtain ⟨pointed, hfraction, hr⟩ := exists_eq_takeFraction (takeDigits (takeSign s).2).2
  unfold signed? at h
  dsimp only at h
  split at h
  · cases h
  · rename_i hne
    obtain ⟨e, he, rfl⟩ := Option.map_eq_some_iff.mp h
    have hsplit : (takeSign s).2 = (takeDigits (takeSign s).2).1 ++
        (pointed ++ (takeFraction (takeDigits (takeSign s).2).2).2) := by
      rw [← hr]
      exact hdigits
    simp only [Bool.and_eq_true, List.isEmpty_iff, not_and_or] at hne
    have hwrites := Writes.mk hsign hwhole hfraction hne (exponent?_eq_some_iff.mp he)
    rwa [← hsplit, ← hs] at hwrites

theorem signed?_of_writes {s : Text} {n : Numeral} (h : Writes n s) : signed? s = some n := by
  obtain ⟨hsign, hwhole, hfraction, hne, htail⟩ := h
  rename_i negative sign whole fraction pointed tail exponent
  have hdigit : ∀ c ∈ tail.head?, isAsciiDigit c = false := by
    intro c hc
    rcases htail.head?_eq c hc with rfl | rfl <;> rfl
  have hpoint : ∀ c ∈ tail.head?, c ≠ '.' := by
    intro c hc
    rcases htail.head?_eq c hc with rfl | rfl <;> decide
  have hpointed : ∀ c ∈ (pointed ++ tail).head?, isAsciiDigit c = false := by
    cases hfraction with
    | none => exact hdigit
    | point hdigits => intro c hc; cases hc; rfl
  have hunsigned : Unsigned (whole ++ (pointed ++ tail)) := by
    cases whole with
    | cons c cs => exact unsigned_cons (hwhole c List.mem_cons_self) _
    | nil =>
      cases hfraction with
      | none => simp at hne
      | point hdigits => intro c hc; cases hc; decide
  unfold signed?
  rw [takeSign_append hsign hunsigned]
  dsimp only
  rw [takeDigits_append hwhole hpointed]
  dsimp only
  rw [takeFraction_append hfraction hdigit hpoint]
  dsimp only
  rw [exponent?_eq_some_iff.mpr htail, if_neg]
  · rfl
  · simpa only [Bool.and_eq_true, List.isEmpty_iff, not_and_or] using hne

/-- **A text is read as a numeral exactly if it writes one.** -/
theorem signed?_eq_some_iff {s : Text} {n : Numeral} : signed? s = some n ↔ Writes n s :=
  ⟨writes_of_signed?, signed?_of_writes⟩

/-! ## Unsigned numerals -/

/-- A text writes a numeral without a sign and an exponent. -/
inductive WritesUnsigned : Numeral → Text → Prop
  | whole {digits : Text} (hne : digits ≠ []) (hdigits : AllDigits digits) :
      WritesUnsigned ⟨false, digits, [], 0⟩ digits
  | point {whole fraction : Text} (hne : whole ≠ []) (hwhole : AllDigits whole)
      (hne' : fraction ≠ []) (hfraction : AllDigits fraction) :
      WritesUnsigned ⟨false, whole, fraction, 0⟩ (whole ++ '.' :: fraction)

/-- Unsigned numerals are numerals, of the same meaning. -/
theorem WritesUnsigned.writes {n : Numeral} {s : Text} (h : WritesUnsigned n s) :
    Writes n s := by
  cases h with
  | whole hne hdigits =>
    have hwrites := Writes.mk .none hdigits .none (Or.inl hne) .none
    simpa using hwrites
  | point hne hwhole hne' hfraction =>
    have hwrites := Writes.mk .none hwhole (.point hfraction) (Or.inl hne) .none
    simpa using hwrites

theorem writesUnsigned_of_unsigned? {s : Text} {n : Numeral} (h : unsigned? s = some n) :
    WritesUnsigned n s := by
  obtain ⟨hwhole, hs⟩ := eq_takeDigits_append s
  unfold unsigned? at h
  dsimp only at h
  generalize takeDigits s = parts at *
  obtain ⟨whole, rest⟩ := parts
  split at h
  · cases h
  · rename_i hempty
    have hne : whole ≠ [] := mt List.isEmpty_iff.mpr hempty
    split at h
    · rename_i hrest
      obtain rfl := Option.some.inj h
      rw [hs, hrest, List.append_nil]
      exact .whole hne hwhole
    · rename_i after hrest
      obtain ⟨hfraction, hafter⟩ := eq_takeDigits_append after
      split at h
      · cases h
      · rename_i hends
        simp only [Bool.or_eq_true, Bool.not_eq_true', not_or, Bool.not_eq_false,
          List.isEmpty_iff] at hends
        obtain ⟨hne', hnil⟩ := hends
        rw [hnil, List.append_nil] at hafter
        obtain rfl := Option.some.inj h
        rw [hs, hrest, ← hafter]
        rw [← hafter] at hne' hfraction
        exact .point hne hwhole hne' hfraction
    · cases h

theorem unsigned?_of_writesUnsigned {s : Text} {n : Numeral} (h : WritesUnsigned n s) :
    unsigned? s = some n := by
  unfold unsigned?
  cases h with
  | whole hne hdigits =>
    rw [takeDigits_of_digits hdigits]
    simp [hne]
  | point hne hwhole hne' hfraction =>
    rw [takeDigits_append hwhole (by intro c hc; cases hc; rfl)]
    simp [takeDigits_of_digits hfraction, hne, hne']

/-- **A text is read as an unsigned numeral exactly if it writes one.** -/
theorem unsigned?_eq_some_iff {s : Text} {n : Numeral} :
    unsigned? s = some n ↔ WritesUnsigned n s :=
  ⟨writesUnsigned_of_unsigned?, unsigned?_of_writesUnsigned⟩

end MetricAudit.Numeral
