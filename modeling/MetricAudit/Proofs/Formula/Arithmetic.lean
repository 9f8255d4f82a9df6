/-
MetricAudit.Proofs.Formula.Arithmetic — what is found in the formula of
an arithmetic expression.

The scans of a formula see a list of tokens and count parentheses; they
build no tree. Each scan is followed here along the grammar: over the
tokens of an expression, whatever comes after them, it collects what the
tree says and goes on (`groupSymbols_append`, `operandSymbols_append`,
`divisorsIn_append`). Precedence enters in one place: the right operand
of a division is a factor, and so a single token or one group.

`spelled_analysis` is the main theorem: for every expression and every
way to write it, the symbols are the variables of the tree, the
denominators those in right operands of divisions, and the formula is
valid exactly if there is a variable.
-/
import MetricAudit.Proofs.Formula.Check

namespace MetricAudit.Formula

open Text (isBlank isAsciiDigit squeeze strip)

namespace Expr

/-- The variables of the right operands of divisions, with
repetitions. -/
def divisors : Expr → List Text
  | .variable _ => []
  | .number _ => []
  | .binary o left right =>
    left.divisors ++ ((if o = .div then right.symbols else []) ++ right.divisors)

theorem mem_divisors_iff {e : Expr} {x : Text} : x ∈ e.divisors ↔ e.DividesBy x := by
  induction e with
  | «variable» y => simp [divisors, DividesBy, subterms]
  | number n => simp [divisors, DividesBy, subterms]
  | binary o left right ihl ihr =>
    have hhere : x ∈ (if o = .div then right.symbols else []) ↔ o = .div ∧ x ∈ right.symbols := by
      split <;> simp_all
    rw [divisors, List.mem_append, List.mem_append, ihl, ihr, hhere]
    simp only [DividesBy, subterms, List.mem_cons, List.mem_append, Expr.binary.injEq]
    grind

end Expr

/-! ## The tokens of an expression -/

@[simp] theorem text_tokenOf (t : Text) : (tokenOf t).text = t := rfl

theorem kind_tokenOf_symbol {x : Text} (hx : isSymbol x = true) :
    (tokenOf x).kind = .variable := by
  cases x with
  | nil => cases hx
  | cons c cs => exact ofFirst_of_isUpper (Bool.and_eq_true_iff.mp hx).1

theorem kind_tokenOf_numeral {n : Text} (hn : IsNumeral n) : (tokenOf n).kind = .number := by
  obtain ⟨c, cs, rfl, hc, -⟩ := exists_eq_of_isNumeral hn
  exact ofFirst_of_isAsciiDigit hc

theorem kind_tokenOf_sign (o : Operation) : (tokenOf [o.sign]).kind = .operator := by
  cases o <;> rfl

theorem isSlash_tokenOf_sign (o : Operation) : (tokenOf [o.sign]).isSlash = decide (o = .div) := by
  cases o <;> rfl

/-- A slash is an operator. -/
theorem isSlash_tokenOf {t : Text} (h : (tokenOf t).kind ≠ .operator) :
    (tokenOf t).isSlash = false := by
  rw [Token.isSlash, beq_eq_false_iff_ne]
  rintro ht
  apply h
  obtain rfl : t = ['/'] := ht
  rfl

/-! ## The scans of an expression -/

theorem symbolsIn_append (ts us : List Token) :
    symbolsIn (ts ++ us) = symbolsIn ts ++ symbolsIn us := by
  rw [symbolsIn, List.filter_append, List.map_append]
  rfl

theorem symbolsIn_of_spelled {l : Level} {e : Expr} {ts : List Text} (h : Spelled l e ts) :
    symbolsIn (ts.map tokenOf) = e.symbols := by
  induction h with
  | «variable» hx => exact symbolsIn_cons_of_variable (kind_tokenOf_symbol hx) []
  | number hn =>
    exact symbolsIn_cons_of_ne (by rw [kind_tokenOf_numeral hn]; decide) []
  | group _ ih =>
    rw [List.cons_append, List.map_cons, List.map_append,
      symbolsIn_cons_of_ne (by decide), symbolsIn_append, ih]
    exact List.append_nil _
  | operand _ ih => exact ih
  | @binary o _ _ _ _ _ _ ihl ihr =>
    rw [List.map_append, List.map_cons, symbolsIn_append,
      symbolsIn_cons_of_ne (by rw [kind_tokenOf_sign]; decide), ihl, ihr]
    rfl

/-- Inside a group, an expression adds its variables and leaves the depth
as it was. -/
theorem groupSymbols_append {l : Level} {e : Expr} {ts : List Text} (h : Spelled l e ts) :
    ∀ (depth : Nat) (rest : List Token),
      groupSymbols depth (ts.map tokenOf ++ rest) = e.symbols ++ groupSymbols depth rest := by
  induction h with
  | «variable» hx =>
    intro depth rest
    simp [groupSymbols, kind_tokenOf_symbol hx, Expr.symbols]
  | number hn =>
    intro depth rest
    simp [groupSymbols, kind_tokenOf_numeral hn, Expr.symbols]
  | group _ ih =>
    intro depth rest
    rw [List.cons_append, List.map_cons, List.map_append, List.cons_append, List.append_assoc]
    exact ih (depth + 1) _
  | operand _ ih => exact ih
  | @binary o _ _ _ _ _ _ ihl ihr =>
    intro depth rest
    have hsign : ∀ ts, groupSymbols depth (tokenOf [o.sign] :: ts) = groupSymbols depth ts := by
      intro ts
      simp [groupSymbols, kind_tokenOf_sign]
    rw [List.map_append, List.map_cons, List.append_assoc, List.cons_append, ihl, hsign, ihr,
      ← List.append_assoc]
    rfl

/-- A factor is just the operand that starts a list of tokens. -/
theorem operandSymbols_append {l : Level} {e : Expr} {ts : List Text} (h : Spelled l e ts) :
    l = .factor → ∀ rest : List Token, operandSymbols (ts.map tokenOf ++ rest) = e.symbols := by
  induction h with
  | «variable» hx =>
    intro _ rest
    exact operandSymbols_of_variable (kind_tokenOf_symbol hx) _
  | number hn =>
    intro _ rest
    rw [List.map_singleton, List.singleton_append, operandSymbols, kind_tokenOf_numeral hn]
    rfl
  | group he _ =>
    intro _ rest
    rw [List.cons_append, List.map_cons, List.map_append, List.cons_append, List.append_assoc,
      operandSymbols]
    exact (groupSymbols_append he 0 _).trans (List.append_nil _)
  | operand _ ih =>
    rintro rfl
    exact ih rfl
  | @binary o _ _ _ _ _ _ _ _ =>
    intro hl
    cases o <;> cases hl

/-- An expression adds what it divides by. -/
theorem divisorsIn_append {l : Level} {e : Expr} {ts : List Text} (h : Spelled l e ts) :
    ∀ rest : List Token, divisorsIn (ts.map tokenOf ++ rest) = e.divisors ++ divisorsIn rest := by
  have hskip : ∀ {t : Text} (ts : List Token), (tokenOf t).kind ≠ .operator →
      divisorsIn (tokenOf t :: ts) = divisorsIn ts := by
    intro t ts ht
    rw [divisorsIn, isSlash_tokenOf ht, if_neg Bool.false_ne_true]
  induction h with
  | «variable» hx =>
    intro rest
    exact hskip rest (by rw [kind_tokenOf_symbol hx]; decide)
  | number hn =>
    intro rest
    exact hskip rest (by rw [kind_tokenOf_numeral hn]; decide)
  | group _ ih =>
    intro rest
    rw [List.cons_append, List.map_cons, List.map_append, List.cons_append, List.append_assoc,
      hskip _ (by decide), ih]
    exact congrArg _ (hskip rest (by decide))
  | operand _ ih => exact ih
  | @binary o left right ts us _ hright ihl ihr =>
    intro rest
    have hoperand : o = .div → operandSymbols (us.map tokenOf ++ rest) = right.symbols := by
      rintro rfl
      exact operandSymbols_append hright rfl rest
    rw [List.map_append, List.map_cons, List.append_assoc, List.cons_append, ihl, divisorsIn,
      isSlash_tokenOf_sign, ihr, Expr.divisors]
    by_cases ho : o = .div
    · simp [ho, hoperand ho]
    · simp [ho]

/-! ## The characters of an expression -/

/-- The characters of symbols and numerals. -/
def isWordChar (c : Char) : Bool := isSymbolChar c || c == '.'

theorem isWordChar_of_isSymbol {x : Text} (hx : isSymbol x = true) :
    ∀ c ∈ x, isWordChar c = true := by
  cases x with
  | nil => cases hx
  | cons c cs =>
    obtain ⟨hc, hcs⟩ := Bool.and_eq_true_iff.mp hx
    intro d hd
    rcases List.mem_cons.mp hd with rfl | hd
    · simp [isWordChar, isSymbolChar, hc]
    · simp [isWordChar, List.all_eq_true.mp hcs d hd]

theorem isWordChar_of_isNumeral {n : Text} (hn : IsNumeral n) :
    ∀ c ∈ n, isWordChar c = true := by
  obtain ⟨c, cs, rfl, hc, hcs⟩ := exists_eq_of_isNumeral hn
  intro d hd
  rcases List.mem_cons.mp hd with rfl | hd
  · simp [isWordChar, isSymbolChar, hc]
  · rcases hcs d hd with hd | rfl
    · simp [isWordChar, isSymbolChar, hd]
    · rfl

/-- A character that is in no word stands in none. -/
theorem count_of_isWordChar {c : Char} (hc : isWordChar c = false) {t : Text}
    (ht : ∀ d ∈ t, isWordChar d = true) : t.count c = 0 := by
  refine List.count_eq_zero.mpr fun hmem => ?_
  rw [ht c hmem] at hc
  cases hc

theorem isAllowed_of_isWordChar {c : Char} (hc : isWordChar c = true) : isAllowed c = true := by
  rcases Bool.or_eq_true_iff.mp hc with hc | hc <;> simp [isAllowed, hc]

theorem isAllowed_of_isSign {c : Char} (hc : isSign c = true) : isAllowed c = true := by
  rcases isSign_iff.mp hc with rfl | rfl | rfl | rfl | rfl | rfl <;> rfl

/-- The characters of an expression are allowed in formulas. -/
theorem isAllowed_of_spelled {l : Level} {e : Expr} {ts : List Text} (h : Spelled l e ts) :
    ∀ c ∈ ts.flatten, isAllowed c = true := by
  intro c hc
  obtain ⟨t, ht, hc⟩ := List.mem_flatten.mp hc
  rcases token_cases_of_spelled h t ht with hx | hn | ⟨d, rfl, hd⟩
  · exact isAllowed_of_isWordChar (isWordChar_of_isSymbol hx c hc)
  · exact isAllowed_of_isWordChar (isWordChar_of_isNumeral hn c hc)
  · obtain rfl := List.mem_singleton.mp hc
    exact isAllowed_of_isSign hd

/-- Every parenthesis of an expression has its other half. -/
theorem count_parentheses_of_spelled {l : Level} {e : Expr} {ts : List Text}
    (h : Spelled l e ts) : ts.flatten.count '(' = ts.flatten.count ')' := by
  have hopen : isWordChar '(' = false := by decide
  have hclose : isWordChar ')' = false := by decide
  induction h with
  | «variable» hx =>
    have hword := isWordChar_of_isSymbol hx
    simp [count_of_isWordChar hopen hword, count_of_isWordChar hclose hword]
  | number hn =>
    have hword := isWordChar_of_isNumeral hn
    simp [count_of_isWordChar hopen hword, count_of_isWordChar hclose hword]
  | group _ ih => simp [ih]
  | operand _ ih => exact ih
  | @binary o _ _ _ _ _ _ ihl ihr => cases o <;> simp [Operation.sign, ihl, ihr]

/-- An expression has an uppercase letter exactly if it has a variable. -/
theorem exists_isUpper_iff_of_spelled {l : Level} {e : Expr} {ts : List Text}
    (h : Spelled l e ts) : (∃ c ∈ ts.flatten, isUpper c = true) ↔ e.symbols ≠ [] := by
  induction h with
  | @«variable» x hx =>
    refine iff_of_true ?_ (by simp [Expr.symbols])
    cases x with
    | nil => cases hx
    | cons c cs => exact ⟨c, by simp, (Bool.and_eq_true_iff.mp hx).1⟩
  | number hn =>
    refine iff_of_false ?_ (by simp [Expr.symbols])
    rintro ⟨d, hd, hupper⟩
    obtain ⟨c, cs, rfl, hc, hcs⟩ := exists_eq_of_isNumeral hn
    have hdigit : isAsciiDigit d = true ∨ d = '.' := by
      rcases List.mem_cons.mp (by simpa using hd) with rfl | hd
      · exact Or.inl hc
      · exact hcs d hd
    rcases hdigit with hdigit | rfl
    · rw [isUpper_of_isAsciiDigit hdigit] at hupper
      cases hupper
    · cases hupper
  | group _ ih =>
    rw [← ih]
    simp [isUpper]
  | operand _ ih => exact ih
  | @binary o left right ts us _ _ ihl ihr =>
    have hsign : isUpper o.sign = false := by cases o <;> rfl
    have hsplit : (∃ c ∈ (ts ++ [o.sign] :: us).flatten, isUpper c = true) ↔
        (∃ c ∈ ts.flatten, isUpper c = true) ∨ ∃ c ∈ us.flatten, isUpper c = true := by
      simp only [List.flatten_append, List.flatten_cons, List.mem_append, List.mem_singleton]
      grind
    rw [hsplit, ihl, ihr, Expr.symbols]
    simp only [ne_eq, List.append_eq_nil_iff, not_and_or]

/-! ## The check -/

/-- A formula of allowed characters with its parentheses in pairs is valid
exactly if it has an uppercase letter. Blanks are of no account. -/
theorem valid_check_iff {s : Text} (hne : squeeze s ≠ [])
    (hcount : (squeeze s).count '(' = (squeeze s).count ')')
    (hallowed : ∀ c ∈ squeeze s, isAllowed c = true) (required : Bool) :
    (check required s).valid = true ↔ ∃ c ∈ squeeze s, isUpper c = true := by
  rw [valid_check_iff_isSound hne]
  exact ⟨fun h => h.hasVariable, fun h => ⟨h, hcount, hallowed⟩⟩

/-! ## The analysis -/

theorem squeeze_ne_nil_of_spelled {l : Level} {e : Expr} {ts : List Text}
    (h : Spelled l e ts) : ts.flatten ≠ [] := by
  have hne : ts ≠ [] := by
    induction h with
    | «variable» _ => simp
    | number _ => simp
    | group _ _ => simp
    | operand _ ih => exact ih
    | binary _ _ _ _ => simp
  obtain ⟨t, ts, rfl⟩ := List.exists_cons_of_ne_nil hne
  obtain ⟨c, cs, rfl, -, -⟩ := isToken_of_spelled h t List.mem_cons_self
  simp

/-- **What is found in an arithmetic expression.** However it is spaced,
the symbols are its variables, the denominators are the variables in
right operands of divisions, both in ascending order, and the formula is
valid exactly if there is a variable, required or not. -/
theorem spelled_analysis {e : Expr} {ts : List Text} {s : Text} (he : Spelled .sum e ts)
    (hs : Spaced ts s) :
    ((symbols s).Pairwise (· < ·) ∧ ∀ x, x ∈ symbols s ↔ x ∈ e.symbols) ∧
      ((denominators s).Pairwise (· < ·) ∧ ∀ x, x ∈ denominators s ↔ e.DividesBy x) ∧
      ∀ required, (check required s).valid = true ↔ e.symbols ≠ [] := by
  have houtline := outline_of_spelled he hs
  have hsqueeze := squeeze_of_spaced (isToken_of_spelled he) hs
  have hsorted : (symbols s).Pairwise (· < ·) := Text.pairwise_sortedDistinct _
  refine ⟨⟨hsorted, fun x => ?_⟩, ⟨hsorted.filter _, fun x => ?_⟩, fun required => ?_⟩
  · rw [symbols_eq, Text.mem_sortedDistinct, houtline, symbolsIn_of_spelled he]
  · rw [mem_denominators_iff, ← Expr.mem_divisors_iff, divisors_eq, houtline]
    have hdivisors := divisorsIn_append he []
    rw [List.append_nil] at hdivisors
    rw [hdivisors]
    simp [divisorsIn]
  · rw [← exists_isUpper_iff_of_spelled he, ← hsqueeze]
    apply valid_check_iff
    · rw [hsqueeze]
      exact squeeze_ne_nil_of_spelled he
    · rw [hsqueeze]
      exact count_parentheses_of_spelled he
    · rw [hsqueeze]
      exact isAllowed_of_spelled he

/-- Divisions from the left, one of them by a group, with blanks here and
there. -/
theorem spelled_analysis_chain :
    ∃ e ts, Spelled .sum e ts ∧ Spaced ts "A /(B- 2.5)/C " ∧
      e = .binary .div (.binary .div (.variable "A")
        (.binary .sub (.variable "B") (.number "2.5"))) (.variable "C") ∧
      (∀ x, x ∈ symbols "A /(B- 2.5)/C " ↔ x ∈ (["A", "B", "C"] : List String).map String.toList) ∧
      (∀ x, x ∈ denominators "A /(B- 2.5)/C " ↔ e.DividesBy x) ∧
      (check true "A /(B- 2.5)/C ").valid = true := by
  have hdigits : ∀ c ∈ ['2'] ++ ['5'], isAsciiDigit c = true :=
    List.forall_mem_cons.mpr ⟨rfl, List.forall_mem_singleton.mpr rfl⟩
  have hnumeral : IsNumeral "2.5" := ⟨['2'], ['5'], by simp, hdigits, Or.inr ⟨rfl, by simp⟩⟩
  have hB : Spelled .sum (.variable "B") ["B"] := .operand (.operand (.variable rfl))
  have hA : Spelled .product (.variable "A") ["A"] := .operand (.variable rfl)
  have hgroup := Spelled.group (.binary (o := .sub) hB (.operand (.number hnumeral)))
  have he := Spelled.operand (l := .sum)
    (.binary (o := .div) (.binary (o := .div) hA hgroup) (.variable (x := "C") rfl))
  have hspace : Text.AllBlank [' '] := by
    intro c hc
    rw [List.mem_singleton.mp hc]
    rfl
  have hnone : Text.AllBlank [] := fun c hc => by cases hc
  have hs : Spaced ["A", "/", "(", "B", "-", "2.5", ")", "/", "C"] "A /(B- 2.5)/C " :=
    .cons hnone (.cons hspace (.cons hnone (.cons hnone (.cons hnone (.cons hspace
      (.cons hnone (.cons hnone (.cons hnone (.nil hspace)))))))))
  obtain ⟨⟨-, hsymbols⟩, ⟨-, hdenominators⟩, hvalid⟩ := spelled_analysis he hs
  exact ⟨_, _, he, hs, rfl, hsymbols, hdenominators, (hvalid true).mpr (by decide)⟩

end MetricAudit.Formula
