/-
MetricAudit.Proofs.Formula.Grammar — arithmetic expressions and the
formulas that write them.

`Expr` is the tree of an expression. `Spelled` is the grammar with the
usual precedence: a sum is added up from the left, its terms are products
that are multiplied and divided from the left, and a factor is a
variable, a number or a sum in parentheses. `Spaced` puts any blanks, or
none, before, between and after the tokens.

The scanner recovers the tokens of an expression from every such text
(`outline_of_spelled`). It takes no more than a token, for between two
symbols or numbers the grammar has an operator or a parenthesis.
-/
import MetricAudit.Proofs.Formula.Spacing

namespace MetricAudit.Formula

open Text (AllBlank isBlank isAsciiDigit squeeze takeWhile_dropWhile_append)

/-! ## Expressions -/

/-- The operations of arithmetic. -/
inductive Operation where
  | add
  | sub
  | mul
  | div
  deriving DecidableEq, Repr

/-- The sign an operation is written with. -/
def Operation.sign : Operation → Char
  | .add => '+'
  | .sub => '-'
  | .mul => '*'
  | .div => '/'

/-- An arithmetic expression. -/
inductive Expr where
  | variable (symbol : Text)
  | number (numeral : Text)
  | binary (operation : Operation) (left right : Expr)
  deriving DecidableEq, Repr

namespace Expr

/-- The variables of an expression from left to right, with
repetitions. -/
def symbols : Expr → List Text
  | .variable x => [x]
  | .number _ => []
  | .binary _ left right => left.symbols ++ right.symbols

/-- An expression and all expressions in it. -/
def subterms : Expr → List Expr
  | .variable x => [.variable x]
  | .number n => [.number n]
  | .binary o left right => .binary o left right :: (left.subterms ++ right.subterms)

/-- The expression divides by something that the variable occurs in. -/
def DividesBy (e : Expr) (x : Text) : Prop :=
  ∃ left right, .binary .div left right ∈ e.subterms ∧ x ∈ right.symbols

end Expr

/-! ## The grammar -/

/-- How tightly the parts of an expression are bound. -/
inductive Level where
  | sum
  | product
  | factor
  deriving DecidableEq, Repr

/-- The level of the operands of a level. -/
def Level.operand : Level → Level
  | .sum => .product
  | .product => .factor
  | .factor => .factor

/-- The level that an operation makes. -/
def Operation.level : Operation → Level
  | .add => .sum
  | .sub => .sum
  | .mul => .product
  | .div => .product

/-- Digits, and a fraction of digits after a point where there is one. -/
def IsNumeral (s : Text) : Prop :=
  ∃ whole fraction, whole ≠ [] ∧ (∀ c ∈ whole ++ fraction, isAsciiDigit c = true) ∧
    (s = whole ∧ fraction = [] ∨ s = whole ++ '.' :: fraction ∧ fraction ≠ [])

/-- The tokens spell the expression at a level. An operation takes a left
operand of its own level and a right operand of the next one. -/
inductive Spelled : Level → Expr → List Text → Prop
  | variable {x : Text} (hx : isSymbol x = true) : Spelled .factor (.variable x) [x]
  | number {n : Text} (hn : IsNumeral n) : Spelled .factor (.number n) [n]
  | group {e : Expr} {ts : List Text} (he : Spelled .sum e ts) :
      Spelled .factor e (['('] :: ts ++ [[')']])
  | operand {l : Level} {e : Expr} {ts : List Text} (he : Spelled l.operand e ts) :
      Spelled l e ts
  | binary {o : Operation} {left right : Expr} {ts us : List Text}
      (hleft : Spelled o.level left ts) (hright : Spelled o.level.operand right us) :
      Spelled o.level (.binary o left right) (ts ++ [o.sign] :: us)

/-- The tokens make the text, with blanks before, between and after them. -/
inductive Spaced : List Text → Text → Prop
  | nil {w : Text} (hw : AllBlank w) : Spaced [] w
  | cons {w t s : Text} {ts : List Text} (hw : AllBlank w) (hs : Spaced ts s) :
      Spaced (t :: ts) (w ++ t ++ s)

/-! ## Characters -/

/-- The characters that are tokens by themselves. -/
def isSign (c : Char) : Bool := isOperator c || c == '(' || c == ')'

theorem Operation.isSign_sign (o : Operation) : isSign o.sign = true := by
  cases o <;> rfl

theorem isSign_iff {c : Char} :
    isSign c = true ↔ c = '+' ∨ c = '-' ∨ c = '*' ∨ c = '/' ∨ c = '(' ∨ c = ')' := by
  simp [isSign, isOperator, or_assoc]

/-- A sign extends no token. -/
theorem continues_of_isSign {k : Kind} {c : Char} (hc : isSign c = true) :
    k.continues c = false := by
  rcases isSign_iff.mp hc with rfl | rfl | rfl | rfl | rfl | rfl <;> cases k <;> rfl

/-- The text is a token of a kind other than blank. -/
def IsToken (t : Text) : Prop :=
  ∃ c cs, t = c :: cs ∧ isBlank c = false ∧ ∀ d ∈ cs, (Kind.ofFirst c).continues d = true

theorem isToken_of_isSign {c : Char} (hc : isSign c = true) : IsToken [c] := by
  refine ⟨c, [], rfl, ?_, fun d hd => by cases hd⟩
  rcases isSign_iff.mp hc with rfl | rfl | rfl | rfl | rfl | rfl <;> rfl

theorem isToken_of_isSymbol {x : Text} (hx : isSymbol x = true) : IsToken x := by
  cases x with
  | nil => cases hx
  | cons c cs =>
    obtain ⟨hc, hcs⟩ := Bool.and_eq_true_iff.mp hx
    refine ⟨c, cs, rfl, ?_, ?_⟩
    · cases hblank : isBlank c with
      | false => rfl
      | true =>
        rw [isUpper_of_isBlank hblank] at hc
        cases hc
    · rw [ofFirst_of_isUpper hc]
      exact List.all_eq_true.mp hcs

/-- A numeral is a digit, and then digits and points. -/
theorem exists_eq_of_isNumeral {n : Text} (hn : IsNumeral n) :
    ∃ c cs, n = c :: cs ∧ isAsciiDigit c = true ∧
      ∀ d ∈ cs, isAsciiDigit d = true ∨ d = '.' := by
  obtain ⟨whole, fraction, hne, hdigits, hn⟩ := hn
  obtain ⟨c, cs, rfl⟩ := List.exists_cons_of_ne_nil hne
  have hc : isAsciiDigit c = true := hdigits c (by simp)
  rcases hn with ⟨rfl, -⟩ | ⟨rfl, -⟩
  · exact ⟨c, cs, rfl, hc, fun d hd => Or.inl (hdigits d (by simp [hd]))⟩
  · refine ⟨c, cs ++ '.' :: fraction, rfl, hc, fun d hd => ?_⟩
    rcases List.mem_append.mp hd with hd | hd
    · exact Or.inl (hdigits d (by simp [hd]))
    · rcases List.mem_cons.mp hd with rfl | hd
      · exact Or.inr rfl
      · exact Or.inl (hdigits d (by simp [hd]))

theorem isToken_of_isNumeral {n : Text} (hn : IsNumeral n) : IsToken n := by
  obtain ⟨c, cs, rfl, hc, hcs⟩ := exists_eq_of_isNumeral hn
  have hblank : isBlank c = false := by
    cases hblank : isBlank c with
    | false => rfl
    | true =>
      rw [Text.isAsciiDigit_of_isBlank hblank] at hc
      cases hc
  refine ⟨c, cs, rfl, hblank, fun d hd => ?_⟩
  rw [ofFirst_of_isAsciiDigit hc]
  rcases hcs d hd with hd | rfl
  · simp [Kind.continues, hd]
  · rfl

/-- The tokens of an expression are symbols, numerals and signs. -/
theorem token_cases_of_spelled {l : Level} {e : Expr} {ts : List Text} (h : Spelled l e ts) :
    ∀ t ∈ ts, isSymbol t = true ∨ IsNumeral t ∨ ∃ c, t = [c] ∧ isSign c = true := by
  induction h with
  | «variable» hx => simpa using Or.inl hx
  | number hn => simpa using Or.inr (Or.inl hn)
  | group _ ih =>
    intro t ht
    simp only [List.cons_append, List.mem_cons, List.mem_append, List.not_mem_nil,
      or_false] at ht
    rcases ht with rfl | ht | rfl
    · exact Or.inr (Or.inr ⟨'(', rfl, rfl⟩)
    · exact ih t ht
    · exact Or.inr (Or.inr ⟨')', rfl, rfl⟩)
  | operand _ ih => exact ih
  | @binary o _ _ _ _ _ _ ihl ihr =>
    intro t ht
    rcases List.mem_append.mp ht with ht | ht
    · exact ihl t ht
    · rcases List.mem_cons.mp ht with rfl | ht
      · exact Or.inr (Or.inr ⟨o.sign, rfl, o.isSign_sign⟩)
      · exact ihr t ht

theorem isToken_of_spelled {l : Level} {e : Expr} {ts : List Text} (h : Spelled l e ts) :
    ∀ t ∈ ts, IsToken t := by
  intro t ht
  rcases token_cases_of_spelled h t ht with hx | hn | ⟨c, rfl, hc⟩
  · exact isToken_of_isSymbol hx
  · exact isToken_of_isNumeral hn
  · exact isToken_of_isSign hc

/-! ## Scanning -/

/-- The token of a text, at no place. -/
def tokenOf (t : Text) : Token := ⟨Kind.ofFirst (t.headD ' '), t, 0⟩

/-- The first of the tokens, if there is any, is a sign. -/
def StartsWithSign (ts : List Text) : Prop := ∀ t ∈ ts.head?, ∃ c, t = [c] ∧ isSign c = true

theorem outline_blank_append {w : Text} (hw : AllBlank w) (s : Text) :
    outline (w ++ s) = outline s := by
  rw [← outline_dropWhile, List.dropWhile_append_of_pos hw, outline_dropWhile]

/-- A token is scanned off a text that does not extend it. -/
theorem outline_token_append {t s : Text} (ht : IsToken t)
    (hs : ∀ c ∈ s.head?, (tokenOf t).kind.continues c = false) :
    outline (t ++ s) = tokenOf t :: outline s := by
  obtain ⟨c, cs, rfl, hc, hcs⟩ := ht
  change ∀ d ∈ s.head?, (Kind.ofFirst c).continues d = false at hs
  obtain ⟨htake, hdrop⟩ := takeWhile_dropWhile_append hcs hs
  rw [List.cons_append, outline_cons, if_neg (ofFirst_ne_blank hc), htake, hdrop]
  rfl

/-- A symbol or a number is scanned off where a sign or nothing comes
next. -/
theorem exists_outline_word {t s : Text} {ts : List Text} (ht : IsToken t)
    (hsign : StartsWithSign ts) (h : Spaced (t :: ts) s) :
    ∃ s', Spaced ts s' ∧ outline s = tokenOf t :: outline s' := by
  cases h with | @cons w t s' ts hw hs => ?_
  refine ⟨s', hs, ?_⟩
  rw [List.append_assoc, outline_blank_append hw]
  refine outline_token_append ht fun c hc => ?_
  have hk : (tokenOf t).kind ≠ .blank := by
    obtain ⟨d, ds, rfl, hd, -⟩ := ht
    exact ofFirst_ne_blank hd
  cases hs with
  | nil hw => exact continues_eq_false hk (hw c (List.mem_of_mem_head? hc))
  | @cons w t s ts hw hs =>
    cases w with
    | nil =>
      obtain ⟨d, rfl, hd⟩ := hsign t rfl
      obtain rfl : d = c := by simpa using hc
      exact continues_of_isSign hd
    | cons b w =>
      obtain rfl : b = c := by simpa using hc
      exact continues_eq_false hk (hw b List.mem_cons_self)

/-- A sign is scanned off whatever comes next. -/
theorem exists_outline_sign {c : Char} {s : Text} {ts : List Text} (hc : isSign c = true)
    (h : Spaced ([c] :: ts) s) :
    ∃ s', Spaced ts s' ∧ outline s = tokenOf [c] :: outline s' := by
  cases h with | @cons w t s' ts hw hs => ?_
  refine ⟨s', hs, ?_⟩
  rw [List.append_assoc, outline_blank_append hw]
  refine outline_token_append (isToken_of_isSign hc) fun d _ => ?_
  rcases isSign_iff.mp hc with rfl | rfl | rfl | rfl | rfl | rfl <;> rfl

/-- The tokens of a spelled expression are scanned off a text that goes on
with a sign, if it goes on. -/
theorem exists_outline_append {l : Level} {e : Expr} {ts : List Text} (h : Spelled l e ts) :
    ∀ {us : List Text} {s : Text}, StartsWithSign us → Spaced (ts ++ us) s →
      ∃ s', Spaced us s' ∧ outline s = ts.map tokenOf ++ outline s' := by
  have hstart : ∀ {c : Char} {us : List Text}, isSign c = true → StartsWithSign ([c] :: us) := by
    intro c us hc t ht
    exact ⟨c, by simpa using ht.symm, hc⟩
  induction h with
  | «variable» hx =>
    intro us s hus hs
    exact exists_outline_word (isToken_of_isSymbol hx) hus hs
  | number hn =>
    intro us s hus hs
    exact exists_outline_word (isToken_of_isNumeral hn) hus hs
  | group _ ih =>
    intro us s _ hs
    rw [List.append_assoc, List.cons_append, List.singleton_append] at hs
    obtain ⟨s₁, hs₁, hopen⟩ := exists_outline_sign rfl hs
    obtain ⟨s₂, hs₂, hinner⟩ := ih (hstart rfl) hs₁
    obtain ⟨s₃, hs₃, hclose⟩ := exists_outline_sign rfl hs₂
    exact ⟨s₃, hs₃, by simp [hopen, hinner, hclose]⟩
  | operand _ ih => exact ih
  | @binary o _ _ ts ts' _ _ ihl ihr =>
    intro us s hus hs
    rw [List.append_assoc, List.cons_append] at hs
    obtain ⟨s₁, hs₁, hleft⟩ := ihl (hstart o.isSign_sign) hs
    obtain ⟨s₂, hs₂, hsign⟩ := exists_outline_sign o.isSign_sign hs₁
    obtain ⟨s₃, hs₃, hright⟩ := ihr hus hs₂
    exact ⟨s₃, hs₃, by simp [hleft, hsign, hright]⟩

/-- The outline of a formula is the tokens that it was made of. -/
theorem outline_of_spelled {l : Level} {e : Expr} {ts : List Text} {s : Text}
    (he : Spelled l e ts) (hs : Spaced ts s) : outline s = ts.map tokenOf := by
  rw [← List.append_nil ts] at hs
  obtain ⟨s', hs', houtline⟩ := exists_outline_append he (fun t ht => by cases ht) hs
  cases hs' with
  | nil hw => rw [houtline, outline_of_allBlank hw, List.append_nil]

/-- There is no blank in a token. -/
theorem isBlank_of_mem_token {t : Text} (ht : IsToken t) : ∀ c ∈ t, isBlank c = false := by
  obtain ⟨c, cs, rfl, hc, hcs⟩ := ht
  intro d hd
  rcases List.mem_cons.mp hd with rfl | hd
  · exact hc
  · cases hblank : isBlank d with
    | false => rfl
    | true =>
      have hcontinues := hcs d hd
      rw [continues_eq_false (ofFirst_ne_blank hc) hblank] at hcontinues
      cases hcontinues

/-- Without its blanks a formula is its tokens in a row. -/
theorem squeeze_of_spaced {ts : List Text} {s : Text} (hts : ∀ t ∈ ts, IsToken t)
    (h : Spaced ts s) : squeeze s = ts.flatten := by
  induction h with
  | nil hw => exact Text.squeeze_of_allBlank hw
  | @cons w t s ts hw _ ih =>
    have ht : squeeze t = t := by
      refine List.filter_eq_self.mpr fun c hc => ?_
      rw [isBlank_of_mem_token (hts t List.mem_cons_self) c hc]
      rfl
    rw [Text.squeeze_append, Text.squeeze_append, Text.squeeze_of_allBlank hw, ht,
      ih fun u hu => hts u (List.mem_cons_of_mem t hu)]
    simp

end MetricAudit.Formula
