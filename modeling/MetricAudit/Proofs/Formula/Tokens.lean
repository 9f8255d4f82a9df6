/-
MetricAudit.Proofs.Formula.Tokens — the one way to cut a formula into
tokens.

Each kind of tokens has its language (`Kind.Admits`). `Cuts` says of any
list of tokens, without a scan, that it cuts a text: the texts of the
tokens put together are the text, each is of the language of its kind and
starts where those before it end, and no token is followed by a character
that would extend it.

The scanner decides on the kind of a token by its first character, and on
its end by the next one. `admits_cons_iff` says that this is just the
language of the kind, so a cut has no choice: its first token is the one
that the scanner takes, and what is left is cut again (`cuts_cons_iff`).
`cuts_iff` is the main theorem.
-/
import MetricAudit.Formula.Variable
import MetricAudit.Proofs.Text.Strip

namespace MetricAudit.Formula

open Text (AllBlank isBlank isAsciiDigit between_of_isBlank isAsciiDigit_of_isBlank
  beq_of_isBlank takeWhile_dropWhile_append head?_dropWhile_eq_false)

/-! ## Characters -/

theorem isUpper_of_isBlank {c : Char} (hc : isBlank c = true) : isUpper c = false :=
  between_of_isBlank hc 'A' 'Z' (by decide) (by decide)

theorem isOperator_of_isBlank {c : Char} (hc : isBlank c = true) :
    isOperator c = false := by
  simp only [isOperator, beq_of_isBlank hc '+' rfl, beq_of_isBlank hc '-' rfl,
    beq_of_isBlank hc '*' rfl, beq_of_isBlank hc '/' rfl, Bool.or_false]

/-- Blanks, and no other characters, start tokens of blanks. -/
theorem ofFirst_eq_blank_iff {c : Char} : Kind.ofFirst c = .blank ↔ isBlank c = true := by
  constructor
  · intro h
    unfold Kind.ofFirst at h
    repeat' split at h
    all_goals first | assumption | cases h
  · intro hc
    have hopen : c ≠ '(' := beq_eq_false_iff_ne.mp (beq_of_isBlank hc '(' rfl)
    have hclose : c ≠ ')' := beq_eq_false_iff_ne.mp (beq_of_isBlank hc ')' rfl)
    simp only [Kind.ofFirst, isUpper_of_isBlank hc, isAsciiDigit_of_isBlank hc,
      isOperator_of_isBlank hc, if_neg hopen, if_neg hclose, hc, Bool.false_eq_true,
      if_false, if_true]

theorem ofFirst_ne_blank {c : Char} (hc : isBlank c = false) : Kind.ofFirst c ≠ .blank := by
  rw [Ne, ofFirst_eq_blank_iff, hc]
  exact Bool.false_ne_true

/-- A blank extends no token of another kind. -/
theorem continues_eq_false {k : Kind} {c : Char} (hk : k ≠ .blank)
    (hc : isBlank c = true) : k.continues c = false := by
  cases k with
  | «variable» =>
    simp only [Kind.continues, isSymbolChar, isUpper_of_isBlank hc,
      isAsciiDigit_of_isBlank hc, beq_of_isBlank hc '_' rfl, Bool.or_false]
  | number =>
    simp only [Kind.continues, isAsciiDigit_of_isBlank hc, beq_of_isBlank hc '.' rfl,
      Bool.or_false]
  | blank => exact absurd rfl hk
  | operator => rfl
  | opening => rfl
  | closing => rfl
  | other => rfl

theorem isUpper_of_isAsciiDigit {c : Char} (hc : isAsciiDigit c = true) :
    isUpper c = false := by
  have hnine : '9'.val.toNat < 'A'.val.toNat := by decide
  simp only [isAsciiDigit, Bool.and_eq_true, decide_eq_true_eq, Char.le_def,
    UInt32.le_iff_toNat_le] at hc
  simp only [isUpper, Bool.and_eq_false_iff, decide_eq_false_iff_not, Char.le_def,
    UInt32.le_iff_toNat_le]
  omega

theorem ofFirst_of_isUpper {c : Char} (hc : isUpper c = true) : Kind.ofFirst c = .variable :=
  if_pos hc

theorem ofFirst_of_isAsciiDigit {c : Char} (hc : isAsciiDigit c = true) :
    Kind.ofFirst c = .number := by
  rw [Kind.ofFirst, isUpper_of_isAsciiDigit hc, if_neg Bool.false_ne_true, if_pos hc]

theorem ofFirst_of_isOperator {c : Char} (hc : isOperator c = true) :
    Kind.ofFirst c = .operator := by
  have hcases : c = '+' ∨ c = '-' ∨ c = '*' ∨ c = '/' := by
    simpa [isOperator, or_assoc] using hc
  rcases hcases with rfl | rfl | rfl | rfl <;> rfl

/-! ## The languages of tokens -/

/-- The texts of each kind of tokens. -/
inductive Kind.Admits : Kind → Text → Prop
  | variable {c : Char} {cs : Text} (hc : isUpper c = true)
      (hcs : ∀ d ∈ cs, isSymbolChar d = true) : Admits .variable (c :: cs)
  | number {c : Char} {cs : Text} (hc : isAsciiDigit c = true)
      (hcs : ∀ d ∈ cs, isAsciiDigit d = true ∨ d = '.') : Admits .number (c :: cs)
  | operator {c : Char} (hc : isOperator c = true) : Admits .operator [c]
  | opening : Admits .opening ['(']
  | closing : Admits .closing [')']
  | blank {c : Char} {cs : Text} (hc : isBlank c = true) (hcs : AllBlank cs) :
      Admits .blank (c :: cs)
  | other {c : Char} (hupper : isUpper c = false) (hdigit : isAsciiDigit c = false)
      (hoperator : isOperator c = false) (hopening : c ≠ '(') (hclosing : c ≠ ')')
      (hblank : isBlank c = false) : Admits .other [c]

theorem admits_singleton (c : Char) : (Kind.ofFirst c).Admits [c] := by
  fun_cases Kind.ofFirst c with
  | case1 hupper => exact .variable hupper (fun _ hd => nomatch hd)
  | case2 _ hdigit => exact .number hdigit (fun _ hd => nomatch hd)
  | case3 _ _ hoperator => exact .operator hoperator
  | case4 _ _ _ hopening => exact hopening ▸ .opening
  | case5 _ _ _ _ hclosing => exact hclosing ▸ .closing
  | case6 _ _ _ _ _ hblank => exact .blank hblank (fun _ hd => nomatch hd)
  | case7 hupper hdigit hoperator hopening hclosing hblank =>
    exact .other (Bool.eq_false_iff.mpr hupper) (Bool.eq_false_iff.mpr hdigit)
      (Bool.eq_false_iff.mpr hoperator) hopening hclosing (Bool.eq_false_iff.mpr hblank)

/-- Where no character extends a kind, none follows the first. -/
theorem eq_nil_of_continues {k : Kind} (hk : ∀ d, k.continues d = false) {cs : Text}
    (hcs : ∀ d ∈ cs, k.continues d = true) : cs = [] := by
  refine List.eq_nil_iff_forall_not_mem.mpr fun d hd => ?_
  have hd := hcs d hd
  rw [hk] at hd
  cases hd

theorem Kind.Admits.extend {k : Kind} {c : Char} {cs : Text} (h : k.Admits [c])
    (hcs : ∀ d ∈ cs, k.continues d = true) : k.Admits (c :: cs) := by
  cases h with
  | «variable» hc _ => exact .variable hc hcs
  | number hc _ => exact .number hc (by simpa [Kind.continues] using hcs)
  | operator hc => exact eq_nil_of_continues (fun _ => rfl) hcs ▸ .operator hc
  | opening => exact eq_nil_of_continues (fun _ => rfl) hcs ▸ .opening
  | closing => exact eq_nil_of_continues (fun _ => rfl) hcs ▸ .closing
  | blank hc _ => exact .blank hc hcs
  | other hupper hdigit hoperator hopening hclosing hblank =>
    exact eq_nil_of_continues (fun _ => rfl) hcs ▸
      .other hupper hdigit hoperator hopening hclosing hblank

/-- The first character decides on the kind, and the kind on the
others. -/
theorem admits_cons_iff {k : Kind} {c : Char} {cs : Text} :
    k.Admits (c :: cs) ↔ k = Kind.ofFirst c ∧ ∀ d ∈ cs, k.continues d = true := by
  constructor
  · intro h
    cases h with
    | «variable» hc hcs => exact ⟨(ofFirst_of_isUpper hc).symm, hcs⟩
    | number hc hcs =>
      exact ⟨(ofFirst_of_isAsciiDigit hc).symm, by simpa [Kind.continues] using hcs⟩
    | operator hc => exact ⟨(ofFirst_of_isOperator hc).symm, fun _ hd => nomatch hd⟩
    | opening => exact ⟨rfl, fun _ hd => nomatch hd⟩
    | closing => exact ⟨rfl, fun _ hd => nomatch hd⟩
    | blank hc hcs => exact ⟨(ofFirst_eq_blank_iff.mpr hc).symm, hcs⟩
    | other hupper hdigit hoperator hopening hclosing hblank =>
      refine ⟨?_, fun _ hd => nomatch hd⟩
      simp [Kind.ofFirst, hupper, hdigit, hoperator, hopening, hclosing, hblank]
  · rintro ⟨rfl, hcs⟩
    exact (admits_singleton c).extend hcs

/-- The token that the scanner takes has a text of its kind. -/
theorem admits_takeWhile (c : Char) (cs : Text) :
    (Kind.ofFirst c).Admits (c :: cs.takeWhile (Kind.ofFirst c).continues) :=
  admits_cons_iff.mpr ⟨rfl, fun _ hd => List.mem_takeWhile_imp hd⟩

/-- A character of a token starts its kind or continues it. -/
theorem Kind.Admits.ofFirst_or_continues {k : Kind} {s : Text} (h : k.Admits s) {c : Char}
    (hc : c ∈ s) : k = Kind.ofFirst c ∨ k.continues c = true := by
  cases s with
  | nil => cases hc
  | cons d ds =>
    obtain ⟨hk, hds⟩ := admits_cons_iff.mp h
    rcases List.mem_cons.mp hc with rfl | hc
    · exact Or.inl hk
    · exact Or.inr (hds c hc)

/-- An uppercase letter stands in the texts of variables only. -/
theorem Kind.Admits.eq_variable {k : Kind} {s : Text} (h : k.Admits s) {c : Char} (hc : c ∈ s)
    (hupper : isUpper c = true) : k = .variable := by
  rcases h.ofFirst_or_continues hc with rfl | hcontinues
  · exact ofFirst_of_isUpper hupper
  · cases k with
    | «variable» => rfl
    | number =>
      have hdigit : isAsciiDigit c = true ∨ c = '.' := by simpa [Kind.continues] using hcontinues
      rcases hdigit with hdigit | rfl
      · rw [isUpper_of_isAsciiDigit hdigit] at hupper
        cases hupper
      · cases hupper
    | blank =>
      rw [isUpper_of_isBlank hcontinues] at hupper
      cases hupper
    | operator => cases hcontinues
    | opening => cases hcontinues
    | closing => cases hcontinues
    | other => cases hcontinues

/-- Where a token holds a digit, another one extends it. -/
theorem Kind.Admits.continues_digit {k : Kind} {s : Text} (h : k.Admits s) {c : Char}
    (hc : c ∈ s) (hdigit : isAsciiDigit c = true) {d : Char} (hd : isAsciiDigit d = true) :
    k.continues d = true := by
  rcases h.ofFirst_or_continues hc with rfl | hcontinues
  · rw [ofFirst_of_isAsciiDigit hdigit]
    simp [Kind.continues, hd]
  · cases k with
    | «variable» => simp [Kind.continues, isSymbolChar, hd]
    | number => simp [Kind.continues, hd]
    | blank =>
      rw [Text.isAsciiDigit_of_isBlank hcontinues] at hdigit
      cases hdigit
    | operator => cases hcontinues
    | opening => cases hcontinues
    | closing => cases hcontinues
    | other => cases hcontinues

theorem Kind.Admits.not_mem {k : Kind} {s : Text} (h : k.Admits s) {d : Char}
    (hk : k ≠ Kind.ofFirst d) (hd : k.continues d = false) : d ∉ s := by
  intro hmem
  rcases h.ofFirst_or_continues hmem with hfirst | hcontinues
  · exact hk hfirst
  · rw [hd] at hcontinues
    cases hcontinues

/-! ## Cuts -/

/-- The tokens cut the text that starts at a position: their texts put
together are the text, each starts behind those before it and has a text
of its kind, and no symbol, number or run of blanks is followed by a
character that would extend it. -/
structure Cuts (start : Nat) (s : Text) (ts : List Token) : Prop where
  flatMap_text : ts.flatMap Token.text = s
  place : ∀ before t after, ts = before ++ t :: after →
    t.text ≠ [] ∧ t.start = start + (before.flatMap Token.text).length
  admits : ∀ t ∈ ts, t.kind.Admits t.text
  maximal : ∀ before t after, ts = before ++ t :: after →
    t.kind = .variable ∨ t.kind = .number ∨ t.kind = .blank →
    ∀ c ∈ (after.flatMap Token.text).head?, ¬t.kind.Admits (t.text ++ [c])

/-- What is left of a cut without its last tokens. -/
theorem Cuts.left {n : Nat} {s : Text} {us ts : List Token} (h : Cuts n s (us ++ ts)) :
    Cuts n (us.flatMap Token.text) us where
  flatMap_text := rfl
  place before t after heq := h.place before t (after ++ ts) (by simp [heq])
  admits t ht := h.admits t (List.mem_append_left ts ht)
  maximal before t after heq hkind c hc := by
    refine h.maximal before t (after ++ ts) (by simp [heq]) hkind c ?_
    rw [List.flatMap_append, List.head?_append, Option.mem_def.mp hc]
    rfl

theorem Cuts.right {n : Nat} {s : Text} (us : List Token) {ts : List Token}
    (h : Cuts n s (us ++ ts)) :
    Cuts (n + (us.flatMap Token.text).length) (ts.flatMap Token.text) ts where
  flatMap_text := rfl
  place before t after heq := by
    have hplace := h.place (us ++ before) t after (by simp [heq])
    rwa [List.flatMap_append, List.length_append, ← Nat.add_assoc] at hplace
  admits t ht := h.admits t (List.mem_append_right us ht)
  maximal before t after heq := h.maximal (us ++ before) t after (by simp [heq])

theorem cuts_nil_iff {n : Nat} {ts : List Token} : Cuts n [] ts ↔ ts = [] := by
  constructor
  · intro h
    cases ts with
    | nil => rfl
    | cons t ts =>
      have hempty := h.flatMap_text
      rw [List.flatMap_cons, List.append_eq_nil_iff] at hempty
      exact absurd hempty.1 (h.place [] t ts rfl).1
  · rintro rfl
    exact ⟨rfl, by simp, by simp, by simp⟩

theorem not_cuts_nil (n : Nat) (c : Char) (cs : Text) : ¬Cuts n (c :: cs) [] :=
  fun h => nomatch h.flatMap_text

/-- Only symbols, numbers and blanks have more than one character. -/
theorem kind_cases_of_continues {k : Kind} {c : Char} (hc : k.continues c = true) :
    k = .variable ∨ k = .number ∨ k = .blank := by
  cases k <;> simp_all [Kind.continues]

/-- A character extends a token exactly if it continues its kind. -/
theorem admits_concat_iff {k : Kind} {s : Text} {c : Char} (h : k.Admits s) :
    k.Admits (s ++ [c]) ↔ k.continues c = true := by
  obtain ⟨d, ds, rfl⟩ : ∃ d ds, s = d :: ds := by cases h <;> exact ⟨_, _, rfl⟩
  obtain ⟨hk, hds⟩ := admits_cons_iff.mp h
  rw [List.cons_append, admits_cons_iff]
  constructor
  · rintro ⟨-, hall⟩
    exact hall c (by simp)
  · intro hc
    refine ⟨hk, fun e he => ?_⟩
    rcases List.mem_append.mp he with he | he
    · exact hds e he
    · rwa [List.mem_singleton.mp he]

/-- The first token is the longest of its kind. -/
theorem Cuts.eq_of_cons {n : Nat} {c : Char} {cs : Text} {t : Token} {ts : List Token}
    (h : Cuts n (c :: cs) (t :: ts)) :
    t = ⟨Kind.ofFirst c, c :: cs.takeWhile (Kind.ofFirst c).continues, n⟩ ∧
      ts.flatMap Token.text = cs.dropWhile (Kind.ofFirst c).continues := by
  obtain ⟨k, text, start⟩ := t
  obtain ⟨hne, hstart⟩ := h.place [] _ ts rfl
  have hmaximal := h.maximal [] _ ts rfl
  have hadmits := h.admits _ List.mem_cons_self
  have htext := h.flatMap_text
  rw [List.flatMap_cons] at htext
  simp only at hne hstart hmaximal hadmits htext
  obtain ⟨d, ds, rfl⟩ := List.exists_cons_of_ne_nil hne
  rw [List.cons_append] at htext
  obtain ⟨rfl, rfl⟩ := List.cons.inj htext
  obtain ⟨rfl, hds⟩ := admits_cons_iff.mp hadmits
  have hrest : ∀ e ∈ (ts.flatMap Token.text).head?, (Kind.ofFirst d).continues e = false := by
    intro e he
    rw [Bool.eq_false_iff]
    intro hcontinues
    exact hmaximal (kind_cases_of_continues hcontinues) e he
      ((admits_concat_iff hadmits).mpr hcontinues)
  obtain ⟨htake, hdrop⟩ := takeWhile_dropWhile_append hds hrest
  obtain rfl : start = n := hstart
  exact ⟨by rw [htake], hdrop.symm⟩

/-- A first token that is the longest of its kind may stand before what
cuts the rest. -/
theorem Cuts.cons {n : Nat} {c : Char} {cs : Text} {ts : List Token}
    (h : Cuts (n + (cs.takeWhile (Kind.ofFirst c).continues).length + 1)
      (cs.dropWhile (Kind.ofFirst c).continues) ts) :
    Cuts n (c :: cs)
      (⟨Kind.ofFirst c, c :: cs.takeWhile (Kind.ofFirst c).continues, n⟩ :: ts) := by
  have hadmits := admits_takeWhile c cs
  constructor
  · rw [List.flatMap_cons, h.flatMap_text, List.cons_append, List.takeWhile_append_dropWhile]
  · intro before t after heq
    cases before with
    | nil =>
      obtain ⟨rfl, rfl⟩ := List.cons.inj heq
      exact ⟨List.cons_ne_nil _ _, rfl⟩
    | cons u before =>
      obtain ⟨rfl, rfl⟩ := List.cons.inj heq
      obtain ⟨hne, hstart⟩ := h.place before t after rfl
      refine ⟨hne, hstart.trans ?_⟩
      simp only [List.flatMap_cons, List.length_append, List.length_cons]
      omega
  · intro t ht
    rcases List.mem_cons.mp ht with rfl | ht
    · exact hadmits
    · exact h.admits t ht
  · intro before t after heq hkind e he
    cases before with
    | nil =>
      obtain ⟨rfl, rfl⟩ := List.cons.inj heq
      rw [h.flatMap_text] at he
      rw [admits_concat_iff hadmits, head?_dropWhile_eq_false he]
      exact Bool.false_ne_true
    | cons u before =>
      obtain ⟨rfl, rfl⟩ := List.cons.inj heq
      exact h.maximal before t after rfl hkind e he

theorem cuts_cons_iff {n : Nat} {c : Char} {cs : Text} {t : Token} {ts : List Token} :
    Cuts n (c :: cs) (t :: ts) ↔
      t = ⟨Kind.ofFirst c, c :: cs.takeWhile (Kind.ofFirst c).continues, n⟩ ∧
        Cuts (n + (cs.takeWhile (Kind.ofFirst c).continues).length + 1)
          (cs.dropWhile (Kind.ofFirst c).continues) ts := by
  constructor
  · intro h
    obtain ⟨rfl, hrest⟩ := h.eq_of_cons
    have hright := Cuts.right [_] h
    rw [hrest] at hright
    exact ⟨rfl, by simpa [Nat.add_assoc] using hright⟩
  · rintro ⟨rfl, h⟩
    exact h.cons

/-- Whatever the position, the tokens that the scanner finds are the only
cut. -/
theorem cuts_iff_eq_tokensFrom (n : Nat) (s : Text) :
    ∀ ts, Cuts n s ts ↔ ts = tokensFrom n s := by
  fun_induction tokensFrom n s with
  | case1 n => exact fun ts => cuts_nil_iff
  | case2 n c cs kind more ih =>
    intro ts
    cases ts with
    | nil => exact iff_of_false (not_cuts_nil n c cs) (List.cons_ne_nil _ _).symm
    | cons t ts => rw [cuts_cons_iff, ih, List.cons.injEq]

/-- Every token has a text of its kind. -/
theorem admits_of_mem_tokensFrom {n : Nat} {s : Text} {t : Token} (ht : t ∈ tokensFrom n s) :
    t.kind.Admits t.text :=
  ((cuts_iff_eq_tokensFrom n s _).mpr rfl).admits t ht

/-- **There is one way to cut a formula.** The tokens of a formula are
the only list whose texts put together are the formula, where each token
starts behind those before it, has a text of its kind, and is no symbol,
number or run of blanks that the next character would extend. -/
theorem cuts_iff (formula : Text) (ts : List Token) : Cuts 0 formula ts ↔ ts = tokens formula :=
  cuts_iff_eq_tokensFrom 0 formula ts

/-- A letter is no part of a number, and a point or an underscore outside
a number or a symbol is a token of its own. -/
example : (tokens "1.2A_9 ._B").map (fun t => (t.kind, String.ofList t.text, t.start)) =
    [(.number, "1.2", 0), (.variable, "A_9", 3), (.blank, " ", 6), (.other, ".", 7),
      (.other, "_", 8), (.variable, "B", 9)] := by
  decide +kernel

end MetricAudit.Formula
