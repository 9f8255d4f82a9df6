/-
MetricAudit.Proofs.Formula.Leftmost — the first direct division, found in
the text.

`DividesAt s place x y` says of the characters of a text what a direct
division is: a letter at the place, a slash with blanks or nothing around
it, and another letter. Neither letter is part of a longer symbol. What
comes before the first one may be glued to it, as in `2A/B` or `_A/B`,
unless there is an uppercase letter in the run.

The scan knows nothing of places. It moves over the tokens other than
blanks and looks at three at a time. So each token is taken off the text
as well: one that is not the left side of a direct division moves the
divisions behind it and makes no other (`dividesAt_append_iff`,
`dividesAt_run_iff`), and what a slash and a letter behind it look like
is the same in the tokens and in the text (`goesOn_outline_iff`). By
induction on the tokens, what the scan finds is the leftmost
(`isLeftmost_directDivisionIn?`); `directDivision?_leftmost` is the main
theorem.
-/
import MetricAudit.Proofs.Formula.Division
import MetricAudit.Proofs.Formula.Grammar
import MetricAudit.Proofs.Formula.Search

namespace MetricAudit.Formula

open Text (AllBlank isBlank takeWhile_dropWhile_append cons_eq_takeWhile_append
  head?_dropWhile_eq_false)

/-! ## Direct divisions in a text -/

/-- A text starts with a slash, blanks or nothing around it, and a letter
that no character of a symbol follows. -/
def DividesBy (s : Text) (y : Char) : Prop :=
  ∃ l r after, s = l ++ '/' :: r ++ y :: after ∧ AllBlank l ∧ AllBlank r ∧
    isUpper y = true ∧ ∀ c ∈ after.head?, isSymbolChar c = false

/-- A direct division stands in a text, its left side at the place: a
letter that ends a run of characters of symbols without another uppercase
letter, and what divides it. -/
def DividesAt (s : Text) (place : Nat) (x y : Char) : Prop :=
  ∃ before rest, s = before ++ x :: rest ∧ before.length = place ∧ isUpper x = true ∧
    (∀ c ∈ before.rtakeWhile isSymbolChar, isUpper c = false) ∧ DividesBy rest y

theorem isUpper_of_allBlank {w : Text} (hw : AllBlank w) : ∀ c ∈ w, isUpper c = false :=
  fun c hc => isUpper_of_isBlank (hw c hc)

/-- What divides starts with no character of a symbol. -/
theorem DividesBy.head? {s : Text} {y : Char} (h : DividesBy s y) :
    ∀ c ∈ s.head?, isSymbolChar c = false := by
  obtain ⟨l, r, after, rfl, hl, -, -, -⟩ := h
  intro c hc
  cases l with
  | nil =>
    obtain rfl : '/' = c := by simpa using hc
    rfl
  | cons d ds =>
    obtain rfl : d = c := by simpa using hc
    rw [Bool.eq_false_iff]
    intro hsymbol
    have hblank := hl d List.mem_cons_self
    rw [isBlank_of_isSymbolChar hsymbol] at hblank
    cases hblank

/-- The letter is the first uppercase one. -/
theorem DividesBy.unique {s : Text} {y y' : Char} (h : DividesBy s y) (h' : DividesBy s y') :
    y = y' := by
  have hfirst : ∀ {z : Char}, DividesBy s z → (s.dropWhile fun c => !isUpper c).head? = some z := by
    rintro z ⟨l, r, after, rfl, hl, hr, hz, -⟩
    have hgap : ∀ c ∈ l ++ '/' :: r, (!isUpper c) = true := by
      have hslash : isUpper '/' = false := rfl
      simp only [Bool.not_eq_true']
      exact List.forall_mem_append.mpr
        ⟨isUpper_of_allBlank hl, List.forall_mem_cons.mpr ⟨hslash, isUpper_of_allBlank hr⟩⟩
    have hend : ∀ c ∈ (z :: after).head?, (!isUpper c) = false := by
      rintro c ⟨⟩
      simp [hz]
    rw [(takeWhile_dropWhile_append hgap hend).2, List.head?_cons]
  exact Option.some.inj ((hfirst h).symm.trans (hfirst h'))

/-- At one place stands one direct division. -/
theorem DividesAt.unique {s : Text} {place : Nat} {x y x' y' : Char} (h : DividesAt s place x y)
    (h' : DividesAt s place x' y') : x = x' ∧ y = y' := by
  obtain ⟨before, rest, rfl, hplace, -, -, hrest⟩ := h
  obtain ⟨before', rest', heq, hplace', -, -, hrest'⟩ := h'
  obtain ⟨-, hcons⟩ := List.append_inj heq (hplace.trans hplace'.symm)
  obtain ⟨rfl, rfl⟩ := List.cons.inj hcons
  exact ⟨rfl, hrest.unique hrest'⟩

/-! ## Text before a direct division -/

/-- The left side is a symbol of one letter. -/
theorem dividesAt_iff {s : Text} {place : Nat} {x y : Char} :
    DividesAt s place x y ↔ ∃ rest, StandsAt s place [x] rest ∧ DividesBy rest y := by
  have hsymbol : isSymbol [x] = isUpper x := by simp [isSymbol]
  constructor
  · rintro ⟨before, rest, rfl, hplace, hx, hrun, hrest⟩
    exact ⟨rest, ⟨hsymbol.trans hx, before, by simp, hplace, hrest.head?, hrun⟩, hrest⟩
  · rintro ⟨rest, ⟨hx, before, rfl, hplace, -, hrun⟩, hrest⟩
    exact ⟨before, rest, by simp, hplace, hsymbol.symm.trans hx, hrun, hrest⟩

/-- A text without uppercase letters moves the direct divisions behind
it. -/
theorem dividesAt_append_iff {l : Text} (hl : ∀ c ∈ l, isUpper c = false) {s : Text} {place : Nat}
    {x y : Char} :
    DividesAt (l ++ s) place x y ↔ ∃ p, place = l.length + p ∧ DividesAt s p x y := by
  simp only [dividesAt_iff, standsAt_append_iff hl]
  constructor
  · rintro ⟨rest, ⟨p, rfl, hstands⟩, hrest⟩
    exact ⟨p, rfl, rest, hstands, hrest⟩
  · rintro ⟨p, rfl, rest, hstands, hrest⟩
    exact ⟨rest, ⟨p, rfl, hstands⟩, hrest⟩

/-- A symbol is the left side of a direct division, or else it moves
those behind it. -/
theorem dividesAt_run_iff {run rest : Text} (hrun : isSymbol run = true)
    (hrest : ∀ c ∈ rest.head?, isSymbolChar c = false) {place : Nat} {x y : Char} :
    DividesAt (run ++ rest) place x y ↔
      (place = 0 ∧ run = [x] ∧ DividesBy rest y) ∨
        ∃ p, place = run.length + p ∧ DividesAt rest p x y := by
  simp only [dividesAt_iff, standsAt_run_iff hrun hrest]
  constructor
  · rintro ⟨after, ⟨rfl, rfl, rfl⟩ | ⟨p, rfl, hstands⟩, hafter⟩
    · exact Or.inl ⟨rfl, rfl, hafter⟩
    · exact Or.inr ⟨p, rfl, after, hstands, hafter⟩
  · rintro (⟨rfl, rfl, hafter⟩ | ⟨p, rfl, after, hstands, hafter⟩)
    · exact ⟨rest, Or.inl ⟨rfl, rfl, rfl⟩, hafter⟩
    · exact ⟨after, Or.inr ⟨p, rfl, hstands⟩, hafter⟩

/-! ## Windows of three tokens -/

/-- Tokens start with a slash and a variable of one letter. -/
def GoesOn (ts : List Token) (v : Text) : Prop :=
  ∃ slash right rest, ts = slash :: right :: rest ∧ slash.isSlash = true ∧
    right.isLetter = true ∧ right.text = v

theorem directDivisionIn?_of_goesOn {t : Token} {ts : List Token} {v : Text}
    (ht : t.isLetter = true) (h : GoesOn ts v) :
    directDivisionIn? (t :: ts) = some (t.text, v) := by
  obtain ⟨slash, right, rest, rfl, hslash, hright, rfl⟩ := h
  simp [directDivisionIn?, ht, hslash, hright]

/-- A token that starts no direct division is passed by. -/
theorem directDivisionIn?_cons {t : Token} {ts : List Token}
    (h : t.isLetter = true → ∀ v, ¬GoesOn ts v) :
    directDivisionIn? (t :: ts) = directDivisionIn? ts := by
  match ts with
  | [] => rfl
  | [_] => rfl
  | slash :: right :: rest =>
    rw [directDivisionIn?, if_neg]
    simp only [Bool.and_eq_true]
    rintro ⟨⟨hslash, ht⟩, hright⟩
    exact h ht right.text ⟨slash, right, rest, rfl, hslash, hright, rfl⟩

/-- The first token of an outline stands behind blanks, and the others are
the outline of what follows it. -/
theorem outline_eq_cons_iff {s : Text} {t : Token} {ts : List Token} :
    outline s = t :: ts ↔
      ∃ w c cs, s = w ++ c :: cs ∧ AllBlank w ∧ isBlank c = false ∧
        t = ⟨Kind.ofFirst c, c :: cs.takeWhile (Kind.ofFirst c).continues, 0⟩ ∧
        outline (cs.dropWhile (Kind.ofFirst c).continues) = ts := by
  constructor
  · intro h
    have hsplit := (List.takeWhile_append_dropWhile (p := isBlank) (l := s)).symm
    rw [← outline_dropWhile] at h
    cases hdrop : s.dropWhile isBlank with
    | nil =>
      rw [hdrop, outline_nil] at h
      cases h
    | cons c cs =>
      have hc : isBlank c = false := head?_dropWhile_eq_false (by rw [hdrop]; rfl)
      rw [hdrop, outline_cons, if_neg (ofFirst_ne_blank hc)] at h
      obtain ⟨rfl, rfl⟩ := List.cons.inj h
      rw [hdrop] at hsplit
      exact ⟨_, c, cs, hsplit, Text.allBlank_takeWhile s, hc, rfl, rfl⟩
  · rintro ⟨w, c, cs, rfl, hw, hc, rfl, rfl⟩
    rw [outline_blank_append hw, outline_cons, if_neg (ofFirst_ne_blank hc)]

/-- A slash is seen in the tokens where it is seen in the text. -/
theorem outline_slash_iff {s : Text} {ts : List Token} :
    (∃ t, outline s = t :: ts ∧ t.isSlash = true) ↔
      ∃ w r, s = w ++ '/' :: r ∧ AllBlank w ∧ outline r = ts := by
  have hnone : ∀ r : Text, r.dropWhile (Kind.ofFirst '/').continues = r := by
    intro r
    cases r <;> rfl
  constructor
  · rintro ⟨t, h, hslash⟩
    obtain ⟨w, c, cs, rfl, hw, -, rfl, hts⟩ := outline_eq_cons_iff.mp h
    obtain rfl : c = '/' := by
      simp only [Token.isSlash, beq_iff_eq] at hslash
      exact (List.cons.inj hslash).1
    rw [hnone] at hts
    exact ⟨w, cs, rfl, hw, hts⟩
  · rintro ⟨w, r, rfl, hw, rfl⟩
    have hr := hnone r
    refine ⟨_, outline_eq_cons_iff.mpr ⟨w, '/', r, rfl, hw, rfl, rfl, by rw [hr]⟩, ?_⟩
    cases r <;> rfl

/-- So is a letter that is no part of a longer symbol. -/
theorem outline_letter_iff {s v : Text} :
    (∃ t ts, outline s = t :: ts ∧ t.isLetter = true ∧ t.text = v) ↔
      ∃ w y after, s = w ++ y :: after ∧ AllBlank w ∧ isUpper y = true ∧ v = [y] ∧
        ∀ c ∈ after.head?, isSymbolChar c = false := by
  constructor
  · rintro ⟨t, ts, h, hletter, rfl⟩
    obtain ⟨w, y, after, rfl, hw, -, rfl, -⟩ := outline_eq_cons_iff.mp h
    simp only [Token.isLetter, Bool.and_eq_true, decide_eq_true_eq, beq_iff_eq,
      List.length_cons] at hletter
    obtain ⟨hkind, hlength⟩ := hletter
    have hnil : after.takeWhile (Kind.ofFirst y).continues = [] :=
      List.length_eq_zero_iff.mp (by omega)
    rw [hkind] at hnil
    refine ⟨w, y, after, rfl, hw, ofFirst_eq_variable_iff.mp hkind, by rw [hkind, hnil],
      fun c hc => ?_⟩
    obtain ⟨rest, rfl⟩ := List.head?_eq_some_iff.mp hc
    rw [Bool.eq_false_iff]
    intro hsymbol
    have hcontinues : Kind.continues .variable c = true := hsymbol
    rw [List.takeWhile_cons_of_pos hcontinues] at hnil
    cases hnil
  · rintro ⟨w, y, after, rfl, hw, hy, rfl, hafter⟩
    have hkind := ofFirst_of_isUpper hy
    have hblank : isBlank y = false := isBlank_of_isSymbolChar (isSymbolChar_of_isUpper hy)
    have hnil : after.takeWhile (Kind.ofFirst y).continues = [] := by
      rw [hkind]
      exact (takeWhile_dropWhile_append (List.forall_mem_nil _) hafter).1
    refine ⟨_, _, outline_eq_cons_iff.mpr ⟨w, y, after, rfl, hw, hblank, rfl, rfl⟩, ?_, ?_⟩
    · rw [Token.isLetter, hnil]
      exact Bool.and_eq_true_iff.mpr ⟨decide_eq_true hkind, rfl⟩
    · rw [hnil]

/-- What divides is seen in the tokens where it is seen in the text. -/
theorem goesOn_outline_iff {s v : Text} : GoesOn (outline s) v ↔ ∃ y, v = [y] ∧ DividesBy s y := by
  constructor
  · rintro ⟨slash, right, rest, h, hslash, hright, hv⟩
    obtain ⟨l, r, rfl, hl, hr⟩ := outline_slash_iff.mp ⟨slash, h, hslash⟩
    obtain ⟨w, y, after, rfl, hw, hy, rfl, hafter⟩ :=
      outline_letter_iff.mp ⟨right, rest, hr, hright, hv⟩
    exact ⟨y, rfl, l, w, after, by simp, hl, hw, hy, hafter⟩
  · rintro ⟨y, rfl, l, r, after, rfl, hl, hr, hy, hafter⟩
    obtain ⟨right, rest, hright, hletter, htext⟩ :=
      outline_letter_iff.mpr ⟨r, y, after, rfl, hr, hy, rfl, hafter⟩
    obtain ⟨slash, hslash, hsign⟩ := outline_slash_iff.mpr ⟨l, r ++ y :: after, rfl, hl, hright⟩
    exact ⟨slash, right, rest, by simpa using hslash, hsign, hletter, htext⟩

/-! ## The leftmost one -/

/-- The sides of the leftmost direct division of a text, nothing where
there is none. -/
def IsLeftmost (s : Text) : Option (Text × Text) → Prop
  | none => ∀ place x y, ¬DividesAt s place x y
  | some (u, v) => ∃ place x y, u = [x] ∧ v = [y] ∧ DividesAt s place x y ∧
      ∀ p < place, ∀ a b, ¬DividesAt s p a b

/-- What moves all direct divisions alike leaves the leftmost one. -/
theorem IsLeftmost.move {s s' : Text} {n : Nat}
    (hmove : ∀ place x y, DividesAt s' place x y ↔ ∃ p, place = n + p ∧ DividesAt s p x y)
    {sides : Option (Text × Text)} (h : IsLeftmost s sides) : IsLeftmost s' sides := by
  match sides with
  | none =>
    intro place x y hdivides
    obtain ⟨p, -, hp⟩ := (hmove place x y).mp hdivides
    exact h p x y hp
  | some (u, v) =>
    obtain ⟨place, x, y, hu, hv, hdivides, hleast⟩ := h
    refine ⟨n + place, x, y, hu, hv, (hmove _ x y).mpr ⟨place, rfl, hdivides⟩, ?_⟩
    intro q hq a b hdivides'
    obtain ⟨p, rfl, hp⟩ := (hmove q a b).mp hdivides'
    exact hleast p (by omega) a b hp

/-- A symbol in front is the left side of the leftmost direct division, or
else it is passed by. -/
theorem IsLeftmost.run_append {run rest : Text} (hrun : isSymbol run = true)
    (hrest : ∀ c ∈ rest.head?, isSymbolChar c = false)
    (h : IsLeftmost rest (directDivisionIn? (outline rest))) :
    IsLeftmost (run ++ rest) (directDivisionIn? (⟨.variable, run, 0⟩ :: outline rest)) := by
  by_cases hdirect : ∃ x y, run = [x] ∧ DividesBy rest y
  · obtain ⟨x, y, rfl, hy⟩ := hdirect
    have hdivides : DividesAt ([x] ++ rest) 0 x y :=
      (dividesAt_run_iff hrun hrest).mpr (Or.inl ⟨rfl, rfl, hy⟩)
    rw [directDivisionIn?_of_goesOn rfl (goesOn_outline_iff.mpr ⟨y, rfl, hy⟩)]
    exact ⟨0, x, y, rfl, rfl, hdivides, fun p hp => absurd hp p.not_lt_zero⟩
  · have hpassed : directDivisionIn? (⟨.variable, run, 0⟩ :: outline rest) =
        directDivisionIn? (outline rest) := by
      refine directDivisionIn?_cons fun hletter v hgoesOn => hdirect ?_
      obtain ⟨y, -, hy⟩ := goesOn_outline_iff.mp hgoesOn
      obtain ⟨x, hx⟩ : ∃ x, run = [x] := by
        simpa [Token.isLetter, List.length_eq_one_iff] using hletter
      exact ⟨x, y, hx, hy⟩
    rw [hpassed]
    refine h.move (n := run.length) fun place x y => ?_
    rw [dividesAt_run_iff hrun hrest]
    refine or_iff_right ?_
    rintro ⟨-, hx, hy⟩
    exact hdirect ⟨x, y, hx, hy⟩

/-- The scan finds the leftmost direct division. -/
theorem isLeftmost_directDivisionIn? (s : Text) :
    IsLeftmost s (directDivisionIn? (outline s)) := by
  fun_induction tokensFrom 0 s with
  | case1 =>
    rw [outline_nil]
    rintro place x y ⟨before, rest, heq, -⟩
    simp at heq
  | case2 n c cs kind more ih =>
    have hsplit : c :: cs = (c :: more) ++ cs.dropWhile kind.continues :=
      cons_eq_takeWhile_append kind.continues c cs
    have hadmits : kind.Admits (c :: more) := admits_takeWhile c cs
    have houtline : kind ≠ .blank →
        outline (c :: cs) = ⟨kind, c :: more, 0⟩ :: outline (cs.dropWhile kind.continues) :=
      fun hkind => (outline_cons c cs).trans (if_neg hkind)
    by_cases hkind : kind = .variable
    · have hrun : isSymbol (c :: more) = true := by
        rw [hkind] at hadmits
        exact hadmits.isSymbol
      have hrest : ∀ d ∈ (cs.dropWhile kind.continues).head?, isSymbolChar d = false := by
        rw [hkind]
        exact fun d hd => head?_dropWhile_eq_false hd
      rw [houtline (by simp [hkind]), hsplit, hkind]
      rw [hkind] at hrest ih
      exact ih.run_append hrun hrest
    · -- no other token holds an uppercase letter, so no division starts in it
      have hlower : ∀ d ∈ c :: more, isUpper d = false := fun d hd =>
        Bool.eq_false_iff.mpr fun hupper => hkind (hadmits.eq_variable hd hupper)
      have hpassed : directDivisionIn? (outline (c :: cs)) =
          directDivisionIn? (outline (cs.dropWhile kind.continues)) := by
        by_cases hblank : kind = .blank
        · rw [hblank]
          exact congrArg directDivisionIn? ((outline_cons c cs).trans (if_pos hblank))
        · rw [houtline hblank]
          refine directDivisionIn?_cons fun hletter => ?_
          simp [Token.isLetter, hkind] at hletter
      rw [hpassed, hsplit]
      exact ih.move fun place x y => dividesAt_append_iff hlower

theorem IsLeftmost.unique {s : Text} {sides sides' : Option (Text × Text)}
    (h : IsLeftmost s sides) (h' : IsLeftmost s sides') : sides = sides' := by
  match sides, sides' with
  | none, none => rfl
  | none, some _ =>
    obtain ⟨place, x, y, -, -, hdivides, -⟩ := h'
    exact absurd hdivides (h place x y)
  | some _, none =>
    obtain ⟨place, x, y, -, -, hdivides, -⟩ := h
    exact absurd hdivides (h' place x y)
  | some (u, v), some (u', v') =>
    obtain ⟨place, x, y, rfl, rfl, hdivides, hleast⟩ := h
    obtain ⟨place', x', y', rfl, rfl, hdivides', hleast'⟩ := h'
    obtain rfl : place = place' := by
      refine Nat.le_antisymm (Nat.not_lt.mp fun hlt => ?_) (Nat.not_lt.mp fun hlt => ?_)
      · exact hleast place' hlt x' y' hdivides'
      · exact hleast' place hlt x y hdivides
    obtain ⟨rfl, rfl⟩ := hdivides.unique hdivides'
    rfl

/-- **The first direct division is the leftmost one.** A formula has the
sides of the direct division that stands furthest to the left in its
text, and none exactly if no direct division stands in it. -/
theorem directDivision?_leftmost (formula : Text) :
    (∀ u v, directDivision? formula = some (u, v) ↔
      ∃ place x y, u = [x] ∧ v = [y] ∧ DividesAt formula place x y ∧
        ∀ p < place, ∀ a b, ¬DividesAt formula p a b) ∧
    (directDivision? formula = none ↔ ∀ place x y, ¬DividesAt formula place x y) := by
  have hleftmost : IsLeftmost formula (directDivision? formula) := by
    rw [directDivision?_eq]
    exact isLeftmost_directDivisionIn? formula
  have hiff : ∀ sides, directDivision? formula = sides ↔ IsLeftmost formula sides :=
    fun sides => ⟨fun h => h ▸ hleftmost, hleftmost.unique⟩
  exact ⟨fun u v => hiff (some (u, v)), hiff none⟩

/-- The end of a longer symbol is passed by, and a letter glued to a number
is not. -/
theorem directDivision?_leftmost_glued :
    directDivision? "AB/C-2_D / E" = some (['D'], ['E']) ∧
      ∃ place, DividesAt "AB/C-2_D / E" place 'D' 'E' ∧ 1 < place ∧
        ¬DividesAt "AB/C-2_D / E" 1 'B' 'C' := by
  have hsides : directDivision? "AB/C-2_D / E" = some (['D'], ['E']) := by decide +kernel
  obtain ⟨place, x, y, ⟨⟩, ⟨⟩, hdivides, hleast⟩ :=
    ((directDivision?_leftmost "AB/C-2_D / E").1 ['D'] ['E']).mp hsides
  have hplace : 1 < place := by
    obtain ⟨before, rest, heq, rfl, -⟩ := hdivides
    match before with
    | [] => cases heq
    | [_] => cases heq
    | _ :: _ :: _ => simp
  exact ⟨hsides, place, hdivides, hplace, hleast 1 hplace 'B' 'C'⟩

end MetricAudit.Formula
