/-
MetricAudit.Proofs.Formula.Spacing — blanks around a formula.

What a formula says is its `outline`: the tokens that are not blank, in
order, wherever they start. Blanks before a formula and after it leave
its outline alone (`outline_dropWhile`, `outline_append`), so a formula
and its stripped form have one outline and the same variables
(`outline_strip`, `symbols_strip`). Blanks inside a text separate: what
starts with one has an outline of its own (`outline_append_of_blank`).

Of characters the argument needs one fact only: a blank starts no token
of another kind and extends none (`continues_eq_false`). So there are no
blanks in the symbol of a variable either (`isSymbol_of_mem_symbols`,
`strip_of_isSymbol`).
-/
import MetricAudit.Proofs.Formula.Tokens

namespace MetricAudit.Formula

open Text (AllBlank isBlank strip isAsciiDigit_of_isBlank beq_of_isBlank)

/-! ## Outlines -/

/-- A token without its place. -/
def Token.unplaced (t : Token) : Token := { t with start := 0 }

/-- The tokens of a formula other than blanks, without their places. -/
def outline (formula : Text) : List Token := (significantTokens formula).map Token.unplaced

/-- Where a text starts moves its tokens and changes nothing else. -/
theorem map_unplaced_tokensFrom (n : Nat) (s : Text) :
    (tokensFrom n s).map Token.unplaced = (tokens s).map Token.unplaced := by
  suffices h : ∀ m, (tokensFrom n s).map Token.unplaced = (tokensFrom m s).map Token.unplaced
    from h 0
  fun_induction tokensFrom n s with
  | case1 => intro m; rw [tokensFrom]
  | case2 n c cs kind more ih =>
    intro m
    rw [tokensFrom, List.map_cons, List.map_cons, ih (m + more.length + 1)]
    rfl

theorem outline_nil : outline [] = [] := by
  rw [outline, significantTokens, tokens, tokensFrom]
  rfl

/-- Leaving out blanks and leaving out places may be exchanged, and it
does not matter where the text starts. -/
theorem outline_eq (n : Nat) (s : Text) :
    outline s = ((tokensFrom n s).map Token.unplaced).filter fun t => t.kind ≠ .blank := by
  rw [map_unplaced_tokensFrom, outline, significantTokens, List.filter_map]
  rfl

/-- The outline of a text starts with its first token, unless that is
one of blanks, and goes on with the outline of what follows. -/
theorem outline_cons (c : Char) (cs : Text) :
    outline (c :: cs) =
      if Kind.ofFirst c = .blank then outline (cs.dropWhile isBlank)
      else ⟨Kind.ofFirst c, c :: cs.takeWhile (Kind.ofFirst c).continues, 0⟩
        :: outline (cs.dropWhile (Kind.ofFirst c).continues) := by
  rw [outline_eq 0, tokensFrom, List.map_cons, List.filter_cons, ← outline_eq]
  by_cases hk : Kind.ofFirst c = .blank
  · simp only [Token.unplaced, hk, ne_eq, not_true_eq_false, decide_false,
      Bool.false_eq_true, if_false, if_true]
    rfl
  · simp only [Token.unplaced, hk, ne_eq, not_false_eq_true, decide_true, if_false, if_true]

/-- A blank in front is not part of the outline. -/
theorem outline_cons_of_isBlank {c : Char} (hc : isBlank c = true) (cs : Text) :
    outline (c :: cs) = outline cs := by
  rw [outline_cons, if_pos (ofFirst_eq_blank_iff.mpr hc)]
  cases cs with
  | nil => rfl
  | cons d ds =>
    cases hd : isBlank d with
    | true =>
      rw [List.dropWhile_cons_of_pos hd, outline_cons d, if_pos (ofFirst_eq_blank_iff.mpr hd)]
    | false => rw [List.dropWhile_cons_of_neg (by simp [hd])]

theorem outline_dropWhile (s : Text) : outline (s.dropWhile isBlank) = outline s := by
  induction s with
  | nil => rfl
  | cons c cs ih =>
    cases hc : isBlank c with
    | true => rw [List.dropWhile_cons_of_pos hc, ih, outline_cons_of_isBlank hc]
    | false => rw [List.dropWhile_cons_of_neg (by simp [hc])]

theorem outline_of_allBlank {w : Text} (hw : AllBlank w) : outline w = [] := by
  rw [← outline_dropWhile, List.dropWhile_eq_nil_iff.mpr hw, outline_nil]

/-! ## Blanks after a text -/

/-- No token but one of blanks reaches into what starts with a blank. -/
theorem takeWhile_continues_append {k : Kind} (hk : k ≠ .blank) {u : Text}
    (hu : ∀ c ∈ u.head?, isBlank c = true) (s : Text) :
    (s ++ u).takeWhile k.continues = s.takeWhile k.continues ∧
      (s ++ u).dropWhile k.continues = s.dropWhile k.continues ++ u := by
  induction s with
  | nil =>
    cases u with
    | nil => exact ⟨rfl, rfl⟩
    | cons c cs => simp [continues_eq_false hk (hu c rfl)]
  | cons c cs ih =>
    cases hc : k.continues c with
    | true => simpa [hc] using ih
    | false => simp [hc]

/-- What starts with a blank has an outline of its own behind any
text. -/
theorem outline_append_of_blank {u : Text} (hu : ∀ c ∈ u.head?, isBlank c = true) :
    ∀ s : Text, outline (s ++ u) = outline s ++ outline u
  | [] => by rw [List.nil_append, outline_nil, List.nil_append]
  | c :: cs => by
    cases hc : isBlank c with
    | true =>
      rw [List.cons_append, outline_cons_of_isBlank hc, outline_cons_of_isBlank hc,
        outline_append_of_blank hu cs]
    | false =>
      have hk := ofFirst_ne_blank hc
      obtain ⟨htake, hdrop⟩ := takeWhile_continues_append hk hu cs
      rw [List.cons_append, outline_cons, outline_cons c cs, if_neg hk, if_neg hk, htake,
        hdrop, outline_append_of_blank hu, List.cons_append]
termination_by s => s.length
decreasing_by
  all_goals
    simp only [List.length_cons]
    have := (List.dropWhile_sublist (l := cs) (Kind.ofFirst c).continues).length_le
    omega

/-- Blanks after a text are not part of its outline. -/
theorem outline_append {w : Text} (hw : AllBlank w) (s : Text) :
    outline (s ++ w) = outline s := by
  have hstart : ∀ c ∈ w.head?, isBlank c = true := fun c hc => hw c (List.mem_of_mem_head? hc)
  rw [outline_append_of_blank hstart, outline_of_allBlank hw, List.append_nil]

/-- A formula says the same with blanks around it and without. -/
theorem outline_strip (s : Text) : outline (strip s) = outline s := by
  obtain ⟨w, hw, hs⟩ := Text.exists_eq_stripEnd (s.dropWhile isBlank)
  rw [← outline_dropWhile s, hs, outline_append hw]
  rfl

/-! ## Variables -/

theorem symbolsIn_cons_of_variable {t : Token} (ht : t.kind = .variable) (ts : List Token) :
    symbolsIn (t :: ts) = t.text :: symbolsIn ts := by
  simp only [symbolsIn, List.filter_cons, ht, decide_true, if_true, List.map_cons]

theorem symbolsIn_cons_of_ne {t : Token} (ht : t.kind ≠ .variable) (ts : List Token) :
    symbolsIn (t :: ts) = symbolsIn ts := by
  rw [symbolsIn, List.filter_cons_of_neg (by simpa using ht)]
  rfl

theorem symbolsIn_map_unplaced (ts : List Token) :
    symbolsIn (ts.map Token.unplaced) = symbolsIn ts := by
  rw [symbolsIn, List.filter_map, List.map_map]
  rfl

/-- A variable is no blank. -/
theorem symbolsIn_significantTokens (formula : Text) :
    symbolsIn (significantTokens formula) = symbolsIn (tokens formula) := by
  rw [symbolsIn, significantTokens, List.filter_filter, symbolsIn]
  congr 2
  funext t
  cases t.kind <;> rfl

/-- The variables of a formula are those of its outline. -/
theorem symbols_eq (formula : Text) :
    symbols formula = Text.sortedDistinct (symbolsIn (outline formula)) := by
  rw [outline, symbolsIn_map_unplaced, symbolsIn_significantTokens]
  rfl

theorem symbols_congr {formula formula' : Text} (h : outline formula = outline formula') :
    symbols formula = symbols formula' := by
  rw [symbols_eq, symbols_eq, h]

theorem symbols_nil : symbols [] = [] := by
  rw [symbols_eq, outline_nil]
  rfl

theorem symbols_strip (formula : Text) : symbols (strip formula) = symbols formula :=
  symbols_congr (outline_strip formula)

/-! ## Symbols -/

theorem isBlank_of_isSymbolChar {c : Char} (hc : isSymbolChar c = true) : isBlank c = false := by
  rw [Bool.eq_false_iff]
  intro hblank
  rw [isSymbolChar, isUpper_of_isBlank hblank, isAsciiDigit_of_isBlank hblank,
    beq_of_isBlank hblank '_' rfl] at hc
  cases hc

theorem isSymbolChar_of_isUpper {c : Char} (hc : isUpper c = true) : isSymbolChar c = true := by
  simp [isSymbolChar, hc]

theorem isSymbolChar_of_mem {x : Text} (hx : isSymbol x = true) :
    ∀ c ∈ x, isSymbolChar c = true := by
  cases x with
  | nil => cases hx
  | cons d ds =>
    obtain ⟨hd, hds⟩ := Bool.and_eq_true_iff.mp hx
    exact List.forall_mem_cons.mpr ⟨isSymbolChar_of_isUpper hd, List.all_eq_true.mp hds⟩

/-- A symbol holds no blank, so there is none around it either. -/
theorem strip_of_isSymbol {x : Text} (hx : isSymbol x = true) : strip x = x :=
  Text.strip_of_not_blank fun c hc => isBlank_of_isSymbolChar (isSymbolChar_of_mem hx c hc)

/-- Only an uppercase letter starts a variable. -/
theorem ofFirst_eq_variable_iff {c : Char} : Kind.ofFirst c = .variable ↔ isUpper c = true := by
  unfold Kind.ofFirst
  repeat' split
  all_goals simp_all

theorem Kind.Admits.isSymbol {x : Text} (h : Kind.Admits .variable x) : isSymbol x = true := by
  cases h with
  | «variable» hc hcs => exact Bool.and_eq_true_iff.mpr ⟨hc, List.all_eq_true.mpr hcs⟩

/-- A variable is named by a symbol. -/
theorem isSymbol_of_mem_tokensFrom {n : Nat} {s : Text} {t : Token} (ht : t ∈ tokensFrom n s)
    (hkind : t.kind = .variable) : isSymbol t.text = true := by
  have hadmits := admits_of_mem_tokensFrom ht
  rw [hkind] at hadmits
  exact hadmits.isSymbol

theorem isSymbol_of_mem_symbols {formula x : Text} (hx : x ∈ symbols formula) :
    isSymbol x = true := by
  rw [symbols, Text.mem_sortedDistinct, symbolsIn] at hx
  obtain ⟨t, ht, rfl⟩ := List.mem_map.mp hx
  obtain ⟨hmem, hkind⟩ := List.mem_filter.mp ht
  exact isSymbol_of_mem_tokensFrom hmem (of_decide_eq_true hkind)

end MetricAudit.Formula
