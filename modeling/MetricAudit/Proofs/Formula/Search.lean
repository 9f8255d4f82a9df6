/-
MetricAudit.Proofs.Formula.Search — the variables of a formula as a
pattern search finds them.

A symbol is an uppercase letter and the longest run of letters, digits
and underscores behind it. Two readings of "the symbols in a text" are
told here without tokens: `Occurs` looks at one place and at the
characters around it, `FindsAll` searches from left to right and goes on
behind each match.

Where a symbol occurs is told by `StandsAt`. A character that starts no
symbol moves those behind it, and so does a symbol, which comes first
itself (`standsAt_cons_iff`, `standsAt_run_iff`).

The scanner of tokens sees numbers, blanks and other characters besides,
but none of those tokens holds an uppercase letter
(`Kind.Admits.eq_variable`). So it finds what the plain search `found`
finds, and both readings are compared with that: `symbolsIn_tokensFrom`,
`mem_found_iff`, `findsAll_iff`. `symbols_eq_search` is the main theorem.
-/
import MetricAudit.Proofs.Formula.Spacing

namespace MetricAudit.Formula

open Text (strip takeWhile_dropWhile_append cons_eq_takeWhile_append head?_dropWhile_eq_false)

/-! ## Symbols in a text -/

/-- A symbol stands in a text: the next character, if there is one, is
none of a symbol, and the run of such characters just before it has no
uppercase letter. -/
def Occurs (x s : Text) : Prop :=
  isSymbol x = true ∧ ∃ before after, s = before ++ x ++ after ∧
    (∀ c ∈ after.head?, isSymbolChar c = false) ∧
    ∀ c ∈ before.rtakeWhile isSymbolChar, isUpper c = false

/-- A symbol is the first match in a text, with what stands before and
behind it: no match starts earlier, and none that starts there is
longer. -/
structure FirstMatch (before x after : Text) : Prop where
  matched : isSymbol x = true
  leftmost : ∀ rest, rest <:+ before → rest ≠ [] →
    ∀ y, y <+: rest ++ x ++ after → isSymbol y = false
  longest : ∀ y, y <+: x ++ after → isSymbol y = true → y.length ≤ x.length

/-- The matches in a text from left to right, each searched for behind
the one before it. -/
inductive FindsAll : Text → List Text → Prop
  | none {s : Text} (h : ∀ y, y <:+: s → isSymbol y = false) : FindsAll s []
  | next {before x after : Text} {xs : List Text} (hfirst : FirstMatch before x after)
      (h : FindsAll after xs) : FindsAll (before ++ x ++ after) (x :: xs)

/-- The matches in a text. -/
def found : Text → List Text
  | [] => []
  | c :: cs =>
    if isUpper c then (c :: cs.takeWhile isSymbolChar) :: found (cs.dropWhile isSymbolChar)
    else found cs
termination_by s => s.length
decreasing_by
  · have := (List.dropWhile_sublist (l := cs) isSymbolChar).length_le
    simp only [List.length_cons]
    omega
  · simp

theorem found_cons_of_isUpper {c : Char} (hc : isUpper c = true) (cs : Text) :
    found (c :: cs) = (c :: cs.takeWhile isSymbolChar) :: found (cs.dropWhile isSymbolChar) := by
  rw [found, if_pos hc]

theorem found_append {l : Text} (hl : ∀ c ∈ l, isUpper c = false) (s : Text) :
    found (l ++ s) = found s := by
  induction l with
  | nil => rfl
  | cons c cs ih =>
    obtain ⟨hc, hcs⟩ := List.forall_mem_cons.mp hl
    rw [List.cons_append, found, hc, if_neg Bool.false_ne_true, ih hcs]

theorem found_eq_nil_iff {s : Text} : found s = [] ↔ ∀ c ∈ s, isUpper c = false := by
  constructor
  · fun_induction found s with
    | case1 => exact fun _ c hc => nomatch hc
    | case2 c cs hc _ => exact fun h => nomatch h
    | case3 c cs hc ih =>
      exact fun h => List.forall_mem_cons.mpr ⟨Bool.eq_false_iff.mpr hc, ih h⟩
  · intro h
    have happend := found_append h []
    rwa [List.append_nil, found] at happend

/-! ## The scanner searches -/

/-- The scanner finds in the tokens what a search finds in the text. -/
theorem symbolsIn_tokensFrom (n : Nat) (s : Text) : symbolsIn (tokensFrom n s) = found s := by
  fun_induction tokensFrom n s with
  | case1 => rw [found]; rfl
  | case2 n c cs kind more ih =>
    by_cases hkind : kind = .variable
    · have hmore : more = cs.takeWhile isSymbolChar := by
        change cs.takeWhile kind.continues = _
        rw [hkind]
        rfl
      rw [hkind] at ih ⊢
      rw [symbolsIn_cons_of_variable rfl, ih,
        found_cons_of_isUpper (ofFirst_eq_variable_iff.mp hkind), hmore]
      rfl
    · -- no other token holds an uppercase letter, so a search passes it by
      have hadmits : kind.Admits (c :: more) := admits_takeWhile c cs
      have hlower : ∀ d ∈ c :: more, isUpper d = false := fun d hd =>
        Bool.eq_false_iff.mpr fun hupper => hkind (hadmits.eq_variable hd hupper)
      have hsplit : c :: cs = (c :: more) ++ cs.dropWhile kind.continues :=
        cons_eq_takeWhile_append kind.continues c cs
      rw [symbolsIn_cons_of_ne hkind, ih, hsplit, found_append hlower]

/-! ## Matches from left to right -/

theorem isSymbol_concat {x : Text} (hx : isSymbol x = true) {c : Char}
    (hc : isSymbolChar c = true) : isSymbol (x ++ [c]) = true := by
  cases x with
  | nil => cases hx
  | cons d ds =>
    obtain ⟨hd, hds⟩ := Bool.and_eq_true_iff.mp hx
    rw [List.cons_append, isSymbol, hd, List.all_append, hds, List.all_cons, hc]
    rfl

theorem ne_nil_of_isSymbol {x : Text} (hx : isSymbol x = true) : x ≠ [] := by
  rintro rfl
  cases hx

/-- No match starts with anything but an uppercase letter. -/
theorem isSymbol_eq_false_of_cons {c : Char} (hc : isUpper c = false) {s y : Text}
    (hy : y <+: c :: s) : isSymbol y = false := by
  cases y with
  | nil => rfl
  | cons d ds =>
    obtain ⟨rfl, -⟩ := List.cons_prefix_cons.mp hy
    rw [isSymbol, hc, Bool.false_and]

/-- A match is the first where no uppercase letter comes before it and no
character of a symbol behind it. -/
theorem firstMatch_iff {before x after : Text} :
    FirstMatch before x after ↔ isSymbol x = true ∧ (∀ c ∈ before, isUpper c = false) ∧
      ∀ c ∈ after.head?, isSymbolChar c = false := by
  constructor
  · rintro ⟨hx, hleft, hlong⟩
    refine ⟨hx, fun c hc => ?_, fun c hc => ?_⟩
    · obtain ⟨l, r, rfl⟩ := List.append_of_mem hc
      have hmatch := hleft (c :: r) (List.suffix_append l _) (List.cons_ne_nil c r) [c] (by simp)
      simpa [isSymbol] using hmatch
    · obtain ⟨r, rfl⟩ := List.head?_eq_some_iff.mp hc
      rw [Bool.eq_false_iff]
      intro hextends
      have hle := hlong (x ++ [c]) ⟨r, by simp⟩ (isSymbol_concat hx hextends)
      rw [List.length_append, List.length_singleton] at hle
      omega
  · rintro ⟨hx, hbefore, hafter⟩
    refine ⟨hx, fun rest hrest hne y hy => ?_, fun y hy hsymbol => ?_⟩
    · obtain ⟨c, cs, rfl⟩ := List.exists_cons_of_ne_nil hne
      exact isSymbol_eq_false_of_cons (hbefore c (hrest.subset List.mem_cons_self)) hy
    · by_contra hlonger
      obtain ⟨z, rfl⟩ := List.prefix_of_prefix_length_le (List.prefix_append x after) hy (by omega)
      cases z with
      | nil => simp at hlonger
      | cons c z =>
        obtain ⟨r, hr⟩ := (List.prefix_append_right_inj x).mp hy
        have hc := hafter c (by rw [← hr]; rfl)
        rw [isSymbolChar_of_mem hsymbol c (by simp)] at hc
        cases hc

theorem found_of_firstMatch {before x after : Text} (h : FirstMatch before x after) :
    found (before ++ x ++ after) = x :: found after := by
  obtain ⟨hx, hbefore, hafter⟩ := firstMatch_iff.mp h
  rw [List.append_assoc, found_append hbefore]
  cases x with
  | nil => cases hx
  | cons c cs =>
    obtain ⟨hc, hcs⟩ := Bool.and_eq_true_iff.mp hx
    obtain ⟨htake, hdrop⟩ := takeWhile_dropWhile_append (List.all_eq_true.mp hcs) hafter
    rw [List.cons_append, found_cons_of_isUpper hc, htake, hdrop]

/-- What does not start a match may stand before a search. -/
theorem FindsAll.cons {c : Char} (hc : isUpper c = false) {s : Text} {xs : List Text}
    (h : FindsAll s xs) : FindsAll (c :: s) xs := by
  cases h with
  | none hnone =>
    refine .none fun y hy => ?_
    rcases List.infix_cons_iff.mp hy with hy | hy
    · exact isSymbol_eq_false_of_cons hc hy
    · exact hnone y hy
  | @next before x after xs hfirst h =>
    obtain ⟨hx, hbefore, hafter⟩ := firstMatch_iff.mp hfirst
    have hfirst' : FirstMatch (c :: before) x after :=
      firstMatch_iff.mpr ⟨hx, List.forall_mem_cons.mpr ⟨hc, hbefore⟩, hafter⟩
    exact .next hfirst' h

theorem findsAll_found (s : Text) : FindsAll s (found s) := by
  fun_induction found s with
  | case1 =>
    refine .none fun y hy => ?_
    rw [List.infix_nil.mp hy]
    rfl
  | case2 c cs hc ih =>
    have hfirst : FirstMatch [] (c :: cs.takeWhile isSymbolChar) (cs.dropWhile isSymbolChar) := by
      refine firstMatch_iff.mpr ⟨?_, List.forall_mem_nil _, fun d => head?_dropWhile_eq_false⟩
      simp only [isSymbol, hc, Bool.true_and, List.all_takeWhile]
    have hnext := FindsAll.next hfirst ih
    rwa [List.nil_append, List.cons_append, List.takeWhile_append_dropWhile] at hnext
  | case3 c cs hc ih => exact ih.cons (Bool.eq_false_iff.mpr hc)

/-- Searching from left to right has one outcome. -/
theorem findsAll_iff {s : Text} {xs : List Text} : FindsAll s xs ↔ xs = found s := by
  constructor
  · intro h
    induction h with
    | @none s h =>
      refine (found_eq_nil_iff.mpr fun c hc => ?_).symm
      obtain ⟨l, r, rfl⟩ := List.append_of_mem hc
      have hmatch := h [c] ⟨l, r, by simp⟩
      simpa [isSymbol] using hmatch
    | next hfirst _ ih => rw [found_of_firstMatch hfirst, ih]
  · rintro rfl
    exact findsAll_found s

/-! ## Occurrences -/

/-- The run before a place is the longest, so it is free of uppercase
letters exactly if every run there is. -/
theorem forall_mem_rtakeWhile_iff {s : Text} :
    (∀ c ∈ s.rtakeWhile isSymbolChar, isUpper c = false) ↔
      ∀ run, run <:+ s → (∀ c ∈ run, isSymbolChar c = true) → ∀ c ∈ run, isUpper c = false := by
  constructor
  · intro h run hrun hall c hc
    obtain ⟨l, rfl⟩ := hrun
    refine h c ?_
    have hrev : ∀ d ∈ run.reverse, isSymbolChar d = true := fun d hd =>
      hall d (List.mem_reverse.mp hd)
    rw [List.rtakeWhile, List.mem_reverse, List.reverse_append, List.takeWhile_append_of_pos hrev]
    exact List.mem_append_left _ (List.mem_reverse.mpr hc)
  · intro h c hc
    exact h _ (List.rtakeWhile_suffix _ _) (fun _ => List.mem_rtakeWhile_imp) c hc

/-- A symbol stands at a place of a text, with what follows it. The next
character is none of a symbol, and the run of such characters that ends
before the place has no uppercase letter. -/
def StandsAt (s : Text) (place : Nat) (x after : Text) : Prop :=
  isSymbol x = true ∧ ∃ before, s = before ++ x ++ after ∧ before.length = place ∧
    (∀ c ∈ after.head?, isSymbolChar c = false) ∧
    ∀ c ∈ before.rtakeWhile isSymbolChar, isUpper c = false

theorem occurs_iff {x s : Text} : Occurs x s ↔ ∃ place after, StandsAt s place x after := by
  constructor
  · rintro ⟨hx, before, after, heq, hafter, hrun⟩
    exact ⟨before.length, after, hx, before, heq, rfl, hafter, hrun⟩
  · rintro ⟨place, after, hx, before, heq, -, hafter, hrun⟩
    exact ⟨hx, before, after, heq, hafter, hrun⟩

/-- No symbol starts with anything but an uppercase letter, and such a
character moves those behind it and spoils none. -/
theorem standsAt_cons_iff {c : Char} (hc : isUpper c = false) {s x after : Text} {place : Nat} :
    StandsAt (c :: s) place x after ↔ ∃ p, place = p + 1 ∧ StandsAt s p x after := by
  unfold StandsAt
  simp only [forall_mem_rtakeWhile_iff]
  constructor
  · rintro ⟨hx, before, heq, hplace, hafter, hrun⟩
    cases before with
    | nil =>
      have hstart : x <+: c :: s := ⟨after, heq.symm⟩
      rw [isSymbol_eq_false_of_cons hc hstart] at hx
      cases hx
    | cons d before =>
      obtain ⟨rfl, rfl⟩ := List.cons.inj heq
      exact ⟨before.length, hplace.symm, hx, before, rfl, rfl, hafter,
        fun run h => hrun run (h.trans (List.suffix_cons _ _))⟩
  · rintro ⟨p, rfl, hx, before, rfl, rfl, hafter, hrun⟩
    refine ⟨hx, c :: before, rfl, rfl, hafter, fun run h hall => ?_⟩
    rcases List.suffix_cons_iff.mp h with rfl | h
    · obtain ⟨-, hbefore⟩ := List.forall_mem_cons.mp hall
      exact List.forall_mem_cons.mpr ⟨hc, hrun before List.suffix_rfl hbefore⟩
    · exact hrun run h hall

theorem standsAt_append_iff {l : Text} (hl : ∀ c ∈ l, isUpper c = false) {s x after : Text}
    {place : Nat} :
    StandsAt (l ++ s) place x after ↔ ∃ p, place = l.length + p ∧ StandsAt s p x after := by
  induction l generalizing place with
  | nil => simp
  | cons c cs ih =>
    obtain ⟨hc, hcs⟩ := List.forall_mem_cons.mp hl
    simp only [List.cons_append, standsAt_cons_iff hc, ih hcs, List.length_cons]
    constructor
    · rintro ⟨-, rfl, p, rfl, h⟩
      exact ⟨p, by omega, h⟩
    · rintro ⟨p, rfl, h⟩
      exact ⟨cs.length + p, by omega, p, rfl, h⟩

/-- Where an uppercase letter starts a run, the run is the first symbol,
and the others stand behind it. -/
theorem standsAt_run_iff {run rest x after : Text} (hrun : isSymbol run = true)
    (hrest : ∀ c ∈ rest.head?, isSymbolChar c = false) {place : Nat} :
    StandsAt (run ++ rest) place x after ↔
      (place = 0 ∧ x = run ∧ after = rest) ∨
        ∃ p, place = run.length + p ∧ StandsAt rest p x after := by
  unfold StandsAt
  simp only [forall_mem_rtakeWhile_iff]
  constructor
  · rintro ⟨hx, before, heq, hplace, hafter, hbefore⟩
    rw [List.append_assoc] at heq
    rcases List.append_eq_append_iff.mp heq with ⟨l, rfl, rfl⟩ | ⟨r, rfl, hr⟩
    · refine Or.inr ⟨l.length, by simpa using hplace.symm, hx, l, (List.append_assoc ..).symm,
        rfl, hafter, fun r hr => ?_⟩
      exact hbefore r (hr.trans (List.suffix_append run l))
    · cases before with
      | nil =>
        obtain ⟨hx', hafter'⟩ := takeWhile_dropWhile_append (isSymbolChar_of_mem hx) hafter
        obtain ⟨hr', hrest'⟩ := takeWhile_dropWhile_append (isSymbolChar_of_mem hrun) hrest
        rw [List.nil_append] at hr' hrest' ⊢
        rw [hr] at hx' hafter'
        exact Or.inl ⟨hplace.symm, hx'.symm.trans hr', hafter'.symm.trans hrest'⟩
      | cons c before =>
        have hall : ∀ d ∈ c :: before, isSymbolChar d = true := fun d hd =>
          isSymbolChar_of_mem hrun d (List.mem_append_left r hd)
        have hc := hbefore _ List.suffix_rfl hall c List.mem_cons_self
        rw [List.cons_append, isSymbol, hc] at hrun
        cases hrun
  · rintro (⟨rfl, rfl, rfl⟩ | ⟨p, rfl, hx, before, rfl, rfl, hafter, hbefore⟩)
    · refine ⟨hrun, [], rfl, rfl, hrest, fun r hr _ c hc => ?_⟩
      rw [List.suffix_nil.mp hr] at hc
      cases hc
    · refine ⟨hx, run ++ before, by simp, by simp, hafter, fun r hr hall => ?_⟩
      rcases List.suffix_or_suffix_of_suffix hr (List.suffix_append run before) with hr | hr
      · exact hbefore r hr hall
      · -- the run would reach the first character behind the other one
        have hall : ∀ c ∈ before ++ x, isSymbolChar c = true :=
          List.forall_mem_append.mpr
            ⟨fun c hc => hall c (hr.subset hc), isSymbolChar_of_mem hx⟩
        obtain ⟨c, cs, hcs⟩ := List.exists_cons_of_ne_nil
          (List.append_ne_nil_of_right_ne_nil before (ne_nil_of_isSymbol hx))
        have hc := hrest c (by rw [hcs]; rfl)
        rw [hall c (by rw [hcs]; exact List.mem_cons_self)] at hc
        cases hc

/-- What occurs does so wherever it stands, so such a character makes no
difference. -/
theorem occurs_cons_iff {c : Char} (hc : isUpper c = false) {x s : Text} :
    Occurs x (c :: s) ↔ Occurs x s := by
  simp only [occurs_iff, standsAt_cons_iff hc]
  constructor
  · rintro ⟨-, after, p, rfl, h⟩
    exact ⟨p, after, h⟩
  · rintro ⟨p, after, h⟩
    exact ⟨p + 1, after, p, rfl, h⟩

theorem occurs_run_iff {run rest x : Text} (hrun : isSymbol run = true)
    (hrest : ∀ c ∈ rest.head?, isSymbolChar c = false) :
    Occurs x (run ++ rest) ↔ x = run ∨ Occurs x rest := by
  simp only [occurs_iff, standsAt_run_iff hrun hrest]
  constructor
  · rintro ⟨-, after, ⟨-, rfl, -⟩ | ⟨p, -, h⟩⟩
    · exact Or.inl rfl
    · exact Or.inr ⟨p, after, h⟩
  · rintro (rfl | ⟨p, after, h⟩)
    · exact ⟨0, rest, Or.inl ⟨rfl, rfl, rfl⟩⟩
    · exact ⟨run.length + p, after, Or.inr ⟨p, rfl, h⟩⟩

/-- A search finds what occurs. -/
theorem mem_found_iff {x s : Text} : x ∈ found s ↔ Occurs x s := by
  fun_induction found s with
  | case1 =>
    refine iff_of_false List.not_mem_nil ?_
    rintro ⟨hx, before, after, heq, -⟩
    obtain ⟨-, rfl, -⟩ : before = [] ∧ x = [] ∧ after = [] := by simpa using heq.symm
    cases hx
  | case2 c cs hc ih =>
    have hsplit := cons_eq_takeWhile_append isSymbolChar c cs
    have hsymbol : isSymbol (c :: cs.takeWhile isSymbolChar) = true := by
      rw [isSymbol, hc, List.all_takeWhile]
      rfl
    rw [List.mem_cons, ih, hsplit, occurs_run_iff hsymbol fun d => head?_dropWhile_eq_false]
  | case3 c cs hc ih => rw [ih, occurs_cons_iff (Bool.eq_false_iff.mpr hc)]

/-! ## The variables -/

/-- **The variables of a formula are the symbols in it.** They ascend, and
are just the symbols that occur in the formula, as well as the matches
that a search from left to right finds in it, each the longest at its
place and behind the one before it. There are none exactly if the formula
has no uppercase letter, and blanks around the formula make no
difference. -/
theorem symbols_eq_search (formula : Text) :
    (symbols formula).Pairwise (· < ·) ∧
    (∀ x, x ∈ symbols formula ↔ Occurs x formula) ∧
    (∃ xs, (∀ ys, FindsAll formula ys ↔ ys = xs) ∧ ∀ x, x ∈ symbols formula ↔ x ∈ xs) ∧
    (symbols formula = [] ↔ ∀ c ∈ formula, isUpper c = false) ∧
    symbols (strip formula) = symbols formula := by
  have hmem : ∀ x, x ∈ symbols formula ↔ x ∈ found formula := by
    intro x
    rw [symbols, Text.mem_sortedDistinct, tokens, symbolsIn_tokensFrom]
  refine ⟨Text.pairwise_sortedDistinct _, fun x => (hmem x).trans mem_found_iff,
    ⟨found formula, fun ys => findsAll_iff, hmem⟩, ?_, symbols_strip formula⟩
  rw [← found_eq_nil_iff, List.eq_nil_iff_forall_not_mem, List.eq_nil_iff_forall_not_mem]
  exact forall_congr' fun x => not_congr (hmem x)

end MetricAudit.Formula
