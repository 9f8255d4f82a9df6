/-
MetricAudit.Proofs.Formula.Denominators — what the scan for divisors
finds, for every list of tokens.

`IsDividedBy ts x` says without a scan when tokens divide by `x`: after
some slash stands the variable `x`, or a parenthesis that is still open
where the variable stands. A group is still open as long as everything
from its parenthesis on holds more opening parentheses than closing ones
(`StaysOpen`). Nothing is asked of the parentheses elsewhere, so they
need not match: one that is never closed reaches to the end, and one that
closes nothing closes the group it stands in.

The scan starts again at every slash and counts the groups that are open
inside the one it is in. `mem_groupSymbols_iff` says what that count
stands for, by induction on the tokens: while the count is kept, no start
of what was passed holds more closing parentheses than there are groups
to close. `denominators_exact` is the main theorem.
-/
import MetricAudit.Proofs.Formula.Division

namespace MetricAudit.Formula

/-! ## Dividing by a variable -/

/-- The token is the variable with a symbol. -/
def Token.Names (t : Token) (x : Text) : Prop := t.kind = .variable ∧ t.text = x

/-- How many parentheses are opened. -/
def openings (ts : List Token) : Nat := ts.countP (·.kind = .opening)

/-- How many parentheses are closed. -/
def closings (ts : List Token) : Nat := ts.countP (·.kind = .closing)

/-- Whatever the tokens start with opens more parentheses than it
closes. -/
def StaysOpen (ts : List Token) : Prop :=
  ∀ part, part <+: ts → part ≠ [] → closings part < openings part

/-- The operand that tokens start with holds a variable. -/
inductive OperandHolds (x : Text) : List Token → Prop
  | single {t : Token} {rest : List Token} (ht : t.Names x) : OperandHolds x (t :: rest)
  | group {opening t : Token} {inside rest : List Token} (hopening : opening.kind = .opening)
      (hopen : StaysOpen (opening :: inside)) (ht : t.Names x) :
      OperandHolds x (opening :: (inside ++ t :: rest))

/-- Somewhere a slash is followed by an operand that holds the
variable. -/
def IsDividedBy (ts : List Token) (x : Text) : Prop :=
  ∃ before slash rest, ts = before ++ slash :: rest ∧ slash.isSlash = true ∧
    OperandHolds x rest

/-! ## Inside a group -/

@[simp] theorem openings_nil : openings [] = 0 := rfl

@[simp] theorem closings_nil : closings [] = 0 := rfl

@[simp] theorem openings_cons (t : Token) (ts : List Token) :
    openings (t :: ts) = openings ts + if t.kind = .opening then 1 else 0 := by
  simp [openings, List.countP_cons]

@[simp] theorem closings_cons (t : Token) (ts : List Token) :
    closings (t :: ts) = closings ts + if t.kind = .closing then 1 else 0 := by
  simp [closings, List.countP_cons]

/-- Whatever the tokens start with closes at most `depth` groups besides
those it opens. -/
def StaysWithin (depth : Nat) (ts : List Token) : Prop :=
  ∀ part, part <+: ts → closings part ≤ openings part + depth

theorem staysWithin_nil (depth : Nat) : StaysWithin depth [] := by
  intro part hpart
  rw [List.prefix_nil.mp hpart]
  exact Nat.zero_le _

/-- What a list starts with is nothing, or its head and what its tail
starts with; nothing closes no group. -/
theorem staysWithin_cons_iff {depth : Nat} {t : Token} {ts : List Token} :
    StaysWithin depth (t :: ts) ↔
      ∀ part, part <+: ts → closings (t :: part) ≤ openings (t :: part) + depth := by
  constructor
  · intro h part hpart
    exact h _ (List.cons_prefix_cons.mpr ⟨rfl, hpart⟩)
  · intro h part hpart
    rcases List.prefix_cons_iff.mp hpart with rfl | ⟨rest, rfl, hrest⟩
    · exact Nat.zero_le _
    · exact h rest hrest

theorem staysWithin_cons_opening {t : Token} (ht : t.kind = .opening) {depth : Nat}
    {ts : List Token} : StaysWithin depth (t :: ts) ↔ StaysWithin (depth + 1) ts := by
  rw [staysWithin_cons_iff, StaysWithin]
  refine forall₂_congr fun part _ => ?_
  simp only [closings_cons, openings_cons, ht, reduceCtorEq, if_true, if_false]
  omega

theorem staysWithin_cons_closing {t : Token} (ht : t.kind = .closing) {depth : Nat}
    {ts : List Token} : StaysWithin (depth + 1) (t :: ts) ↔ StaysWithin depth ts := by
  rw [staysWithin_cons_iff, StaysWithin]
  refine forall₂_congr fun part _ => ?_
  simp only [closings_cons, openings_cons, ht, reduceCtorEq, if_true, if_false]
  omega

/-- Where no group is open besides, a closing parenthesis closes the one
that it stands in. -/
theorem not_staysWithin_cons_closing {t : Token} (ht : t.kind = .closing) (ts : List Token) :
    ¬StaysWithin 0 (t :: ts) := by
  intro h
  have hone := staysWithin_cons_iff.mp h [] List.nil_prefix
  simp [ht] at hone

theorem staysWithin_cons_of_ne {t : Token} (hopening : t.kind ≠ .opening)
    (hclosing : t.kind ≠ .closing) {depth : Nat} {ts : List Token} :
    StaysWithin depth (t :: ts) ↔ StaysWithin depth ts := by
  rw [staysWithin_cons_iff, StaysWithin]
  refine forall₂_congr fun part _ => ?_
  simp only [closings_cons, openings_cons, hopening, hclosing, if_false, Nat.add_zero]

/-- A group stays open while what is inside closes only what it opens. -/
theorem staysOpen_cons_iff {t : Token} (ht : t.kind = .opening) {ts : List Token} :
    StaysOpen (t :: ts) ↔ StaysWithin 0 ts := by
  have hcount : ∀ part : List Token, closings (t :: part) < openings (t :: part) ↔
      closings part ≤ openings part + 0 := by
    intro part
    simp only [closings_cons, openings_cons, ht, reduceCtorEq, if_true, if_false]
    omega
  constructor
  · intro h part hpart
    exact (hcount part).mp (h _ (List.cons_prefix_cons.mpr ⟨rfl, hpart⟩) (List.cons_ne_nil t part))
  · intro h part hpart hne
    rcases List.prefix_cons_iff.mp hpart with rfl | ⟨rest, rfl, hrest⟩
    · exact absurd rfl hne
    · exact (hcount rest).mpr (h rest hrest)

/-- The variable stands in the tokens before `depth` groups more than
were opened are closed. -/
def StandsWithin (depth : Nat) (ts : List Token) (x : Text) : Prop :=
  ∃ inside t rest, ts = inside ++ t :: rest ∧ t.Names x ∧ StaysWithin depth inside

/-- The variable is the first token, or stands after it. -/
theorem standsWithin_cons_iff {depth : Nat} {t : Token} {ts : List Token} {x : Text} :
    StandsWithin depth (t :: ts) x ↔
      t.Names x ∨ ∃ inside u rest, ts = inside ++ u :: rest ∧ u.Names x ∧
        StaysWithin depth (t :: inside) := by
  constructor
  · rintro ⟨inside, u, rest, heq, hu, hwithin⟩
    cases inside with
    | nil =>
      obtain ⟨rfl, rfl⟩ := List.cons.inj heq
      exact Or.inl hu
    | cons v inside =>
      obtain ⟨rfl, rfl⟩ := List.cons.inj heq
      exact Or.inr ⟨inside, u, rest, rfl, hu, hwithin⟩
  · rintro (ht | ⟨inside, u, rest, rfl, hu, hwithin⟩)
    · exact ⟨[], t, ts, rfl, ht, staysWithin_nil depth⟩
    · exact ⟨t :: inside, u, rest, rfl, hu, hwithin⟩

theorem not_names_of_kind {t : Token} (ht : t.kind ≠ .variable) (x : Text) : ¬t.Names x :=
  fun h => ht h.1

/-- What the scan of a group collects. -/
theorem mem_groupSymbols_iff {depth : Nat} {ts : List Token} {x : Text} :
    x ∈ groupSymbols depth ts ↔ StandsWithin depth ts x := by
  fun_induction groupSymbols depth ts with
  | case1 =>
    refine iff_of_false List.not_mem_nil ?_
    rintro ⟨inside, t, rest, heq, -⟩
    exact List.append_ne_nil_of_right_ne_nil inside (List.cons_ne_nil t rest) heq.symm
  | case2 depth t ts ht ih =>
    have hhead : x = t.text ↔ t.Names x := ⟨fun h => ⟨ht, h.symm⟩, fun h => h.2.symm⟩
    have hopening : t.kind ≠ .opening := by rw [ht]; decide
    have hclosing : t.kind ≠ .closing := by rw [ht]; decide
    rw [List.mem_cons, standsWithin_cons_iff, hhead, ih]
    simp only [staysWithin_cons_of_ne hopening hclosing, StandsWithin]
  | case3 depth t ts ht ih =>
    rw [standsWithin_cons_iff, or_iff_right (not_names_of_kind (ht ▸ by decide) x), ih]
    simp only [staysWithin_cons_opening ht, StandsWithin]
  -- the group that the scan is in ends here, and nothing behind it counts
  | case4 t ts ht =>
    rw [standsWithin_cons_iff, or_iff_right (not_names_of_kind (ht ▸ by decide) x)]
    refine iff_of_false List.not_mem_nil ?_
    rintro ⟨inside, u, rest, -, -, hwithin⟩
    exact not_staysWithin_cons_closing ht inside hwithin
  | case5 t ts ht depth ih =>
    rw [standsWithin_cons_iff, or_iff_right (not_names_of_kind (ht ▸ by decide) x), ih]
    simp only [staysWithin_cons_closing ht, StandsWithin]
  | case6 depth t ts hvariable hopening hclosing ih =>
    rw [standsWithin_cons_iff, or_iff_right (not_names_of_kind hvariable x), ih]
    simp only [staysWithin_cons_of_ne hopening hclosing, StandsWithin]

/-! ## After a slash -/

theorem mem_operandSymbols_iff {ts : List Token} {x : Text} :
    x ∈ operandSymbols ts ↔ OperandHolds x ts := by
  constructor
  · fun_cases operandSymbols ts with
    | case1 => exact fun h => absurd h List.not_mem_nil
    | case2 t ts ht => exact fun h => .single ⟨ht, (List.mem_singleton.mp h).symm⟩
    | case3 t ts ht =>
      intro h
      obtain ⟨inside, u, rest, rfl, hu, hwithin⟩ := mem_groupSymbols_iff.mp h
      exact .group ht ((staysOpen_cons_iff ht).mpr hwithin) hu
    | case4 t ts _ _ => exact fun h => absurd h List.not_mem_nil
  · intro h
    cases h with
    | @single t rest ht =>
      rw [operandSymbols_of_variable ht.1, ht.2]
      exact List.mem_cons_self
    | @group t u inside rest hopening hopen hu =>
      rw [operandSymbols, hopening]
      exact mem_groupSymbols_iff.mpr
        ⟨inside, u, rest, rfl, hu, (staysOpen_cons_iff hopening).mp hopen⟩

theorem isDividedBy_cons_iff {t : Token} {ts : List Token} {x : Text} :
    IsDividedBy (t :: ts) x ↔ (t.isSlash = true ∧ OperandHolds x ts) ∨ IsDividedBy ts x := by
  constructor
  · rintro ⟨before, slash, rest, heq, hslash, hoperand⟩
    cases before with
    | nil =>
      obtain ⟨rfl, rfl⟩ := List.cons.inj heq
      exact Or.inl ⟨hslash, hoperand⟩
    | cons u before =>
      obtain ⟨rfl, rfl⟩ := List.cons.inj heq
      exact Or.inr ⟨before, slash, rest, rfl, hslash, hoperand⟩
  · rintro (⟨hslash, hoperand⟩ | ⟨before, slash, rest, rfl, hslash, hoperand⟩)
    · exact ⟨[], t, ts, rfl, hslash, hoperand⟩
    · exact ⟨t :: before, slash, rest, rfl, hslash, hoperand⟩

/-- The scan collects just what the tokens divide by. -/
theorem mem_divisorsIn_iff {ts : List Token} {x : Text} :
    x ∈ divisorsIn ts ↔ IsDividedBy ts x := by
  induction ts with
  | nil =>
    refine iff_of_false List.not_mem_nil ?_
    rintro ⟨before, slash, rest, heq, -⟩
    exact List.append_ne_nil_of_right_ne_nil before (List.cons_ne_nil slash rest) heq.symm
  | cons t ts ih =>
    rw [divisorsIn, isDividedBy_cons_iff, ← ih, ← mem_operandSymbols_iff]
    cases hslash : t.isSlash with
    | true => simp
    | false => simp

theorem isDenominator_iff {formula x : Text} :
    isDenominator formula x = true ↔ IsDividedBy (significantTokens formula) x := by
  rw [isDenominator_eq_contains, List.contains_iff_mem, divisors, mem_divisorsIn_iff]

/-- Of a list of symbols those are kept that are denominators one by
one. -/
theorem denominatorsAmong_eq_filter (formula : Text) (symbols : List Text) :
    denominatorsAmong formula symbols = symbols.filter (isDenominator formula) :=
  List.filter_congr fun x _ => (isDenominator_eq_contains formula x).symm

/-- **What a formula divides by.** The denominators are the variables
that stand directly after a slash or in a group that is opened there and
still open, however the parentheses match. Whether a symbol is one is
decided the same way, and never so for the empty symbol or the empty
formula. Of a list of symbols those are kept that are denominators, in
their order and as often as they occur. -/
theorem denominators_exact (formula : Text) :
    (∀ x, x ∈ denominators formula ↔ IsDividedBy (significantTokens formula) x) ∧
    (∀ x, isDenominator formula x = true ↔ IsDividedBy (significantTokens formula) x) ∧
    (isDenominator formula [] = false ∧ ∀ x, isDenominator [] x = false) ∧
    ∀ symbols, denominatorsAmong formula symbols = symbols.filter (isDenominator formula) := by
  have hempty : ∀ x, isDenominator [] x = false := fun x => by
    rw [isDenominator, List.isEmpty_nil, Bool.or_true, if_pos rfl]
  have hblank : isDenominator formula [] = false := by
    rw [isDenominator, List.isEmpty_nil, Bool.true_or, if_pos rfl]
  exact ⟨fun x => isDenominator_iff_mem.symm.trans isDenominator_iff, fun x => isDenominator_iff,
    ⟨hblank, hempty⟩, denominatorsAmong_eq_filter formula⟩

/-- The parenthesis too many closes nothing, and the group that is never
closed reaches to the end. -/
example : denominators "A/(B-C))*D/(E+(F)/G" = ["B", "C", "E", "F", "G"].map String.toList := by
  decide +kernel

end MetricAudit.Formula
