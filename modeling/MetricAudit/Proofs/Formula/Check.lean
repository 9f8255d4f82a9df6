/-
MetricAudit.Proofs.Formula.Check — what the check of a formula depends on,
and what it asks of the tokens.

The check looks at the characters of a stripped formula, the scanner at
the whole formula, each with its own classes of characters. `examine_eq`
says what is found in terms of the outline of a formula: nearly all of it
is in the text without any blanks, which is the texts of the outline put
together (`flatMap_text_outline`), and the digits 100 in a row stand in
one token, as another digit extends every token that holds one
(`infix_iff_of_digits`).

What is asked of a valid formula is `IsSound`. Token by token that is a
variable, as many opening as closing parentheses, and no other characters
than points and underscores (`isSound_iff_tokens`);
`check_agrees_with_tokens` is the main theorem.
-/
import MetricAudit.Formula.Check
import MetricAudit.Proofs.Formula.Denominators
import MetricAudit.Proofs.Formula.Grammar

namespace MetricAudit

open Text (AllBlank isBlank isAsciiDigit squeeze strip hasPart)

/-! ## Parts of a text -/

namespace Text

/-- A part is what stands in a row somewhere. -/
theorem hasPart_iff_infix {part s : Text} : hasPart part s = true ↔ part <:+: s := by
  induction s with
  | nil => simp [hasPart]
  | cons c cs ih =>
    rw [hasPart, Bool.or_eq_true, List.isPrefixOf_iff_prefix, ih, List.infix_cons_iff]

/-- Where two texts do not meet in two characters of a kind, a part of
such characters is a part of one of them. -/
theorem infix_append_iff_of_apart {p : Char → Bool} {part l r : Text}
    (hpart : ∀ c ∈ part, p c = true)
    (hapart : ∀ c ∈ l, p c = true → ∀ d ∈ r.head?, p d = false) :
    part <:+: l ++ r ↔ part <:+: l ∨ part <:+: r := by
  rw [List.infix_append_iff_ne_nil]
  refine ⟨fun h => ?_, fun h => h.elim Or.inl fun h => Or.inr (Or.inl h)⟩
  rcases h with h | h | ⟨u, v, hu, hv, rfl, hleft, hright⟩
  · exact Or.inl h
  · exact Or.inr h
  · obtain ⟨c, cs, rfl⟩ := List.exists_cons_of_ne_nil hu
    obtain ⟨d, ds, rfl⟩ := List.exists_cons_of_ne_nil hv
    obtain ⟨w, rfl⟩ := hright
    have hd := hapart c (hleft.subset List.mem_cons_self) (hpart c (by simp)) d rfl
    rw [hpart d (by simp)] at hd
    cases hd

end Text

namespace Formula

/-! ## The outline and the text without blanks -/

theorem isToken_of_admits {k : Kind} {t : Text} (h : k.Admits t) (hk : k ≠ .blank) :
    IsToken t := by
  obtain ⟨c, cs, rfl⟩ : ∃ c cs, t = c :: cs := by cases h <;> exact ⟨_, _, rfl⟩
  obtain ⟨rfl, hcs⟩ := admits_cons_iff.mp h
  exact ⟨c, cs, rfl, Bool.eq_false_iff.mpr fun hc => hk (ofFirst_eq_blank_iff.mpr hc), hcs⟩

theorem allBlank_of_admits {t : Text} (h : Kind.blank.Admits t) : AllBlank t := by
  cases h with
  | blank hc hcs => exact List.forall_mem_cons.mpr ⟨hc, hcs⟩

/-- Without its blanks a formula is the texts of its outline. -/
theorem flatMap_text_outline (formula : Text) :
    (outline formula).flatMap Token.text = squeeze formula := by
  have htokens : ∀ ts : List Token, (∀ t ∈ ts, t.kind.Admits t.text) →
      (ts.filter fun t => t.kind ≠ .blank).flatMap Token.text =
        squeeze (ts.flatMap Token.text) := by
    intro ts
    induction ts with
    | nil => exact fun _ => rfl
    | cons t ts ih =>
      intro hts
      obtain ⟨ht, hts⟩ := List.forall_mem_cons.mp hts
      rw [List.flatMap_cons, Text.squeeze_append, ← ih hts, List.filter_cons]
      by_cases hk : t.kind = .blank
      · rw [hk] at ht
        rw [Text.squeeze_of_allBlank (allBlank_of_admits ht)]
        simp [hk]
      · rw [Text.squeeze_of_not_blank (isBlank_of_mem_token (isToken_of_admits ht hk))]
        simp [hk]
  have hformula := htokens (tokens formula) fun t ht => admits_of_mem_tokensFrom ht
  rw [flatMap_text_tokens] at hformula
  rw [outline, List.flatMap_map]
  exact hformula

/-- Digits in a row stand in one token. -/
theorem infix_iff_of_digits {part : Text} (hne : part ≠ [])
    (hpart : ∀ c ∈ part, isAsciiDigit c = true) (n : Nat) (s : Text) :
    part <:+: s ↔ ∃ t ∈ tokensFrom n s, part <:+: t.text := by
  fun_induction tokensFrom n s with
  | case1 n => simp [hne]
  | case2 n c cs kind more ih =>
    have hadmits : kind.Admits (c :: more) := admits_takeWhile c cs
    have hsplit : c :: cs = (c :: more) ++ cs.dropWhile kind.continues :=
      Text.cons_eq_takeWhile_append kind.continues c cs
    have hapart : ∀ d ∈ c :: more, isAsciiDigit d = true →
        ∀ e ∈ (cs.dropWhile kind.continues).head?, isAsciiDigit e = false := by
      intro d hd hdigit e he
      rw [Bool.eq_false_iff]
      intro hedigit
      have hcontinues := hadmits.continues_digit hd hdigit hedigit
      rw [Text.head?_dropWhile_eq_false he] at hcontinues
      cases hcontinues
    rw [hsplit, Text.infix_append_iff_of_apart hpart hapart, ih, List.exists_mem_cons_iff]

/-- A number of digits in a row is in a token of the outline. -/
theorem hasPart_iff_of_digits {part : Text} (hne : part ≠ [])
    (hpart : ∀ c ∈ part, isAsciiDigit c = true) (formula : Text) :
    hasPart part formula = true ↔ ∃ t ∈ outline formula, hasPart part t.text = true := by
  simp only [Text.hasPart_iff_infix]
  rw [infix_iff_of_digits hne hpart 0]
  constructor
  · rintro ⟨t, ht, hwithin⟩
    -- a token that holds a digit is not blank
    obtain ⟨c, hc⟩ := List.exists_mem_of_ne_nil part hne
    have hdigit := hpart c hc
    have hadmits := admits_of_mem_tokensFrom ht
    have hcontinues := hadmits.continues_digit (hwithin.subset hc) hdigit hdigit
    have hkind : t.kind ≠ .blank := by
      intro hk
      rw [hk] at hcontinues
      rw [Text.isAsciiDigit_of_isBlank hcontinues] at hdigit
      cases hdigit
    have hmem : t ∈ significantTokens formula :=
      List.mem_filter.mpr ⟨ht, by simpa using hkind⟩
    exact ⟨t.unplaced, List.mem_map_of_mem hmem, hwithin⟩
  · rintro ⟨u, hu, hwithin⟩
    obtain ⟨t, ht, rfl⟩ := List.mem_map.mp hu
    exact ⟨t, (List.mem_filter.mp ht).1, hwithin⟩

/-! ## What is found -/

/-- What is found in a formula, by its outline, its variables and its
characters that are not blank. -/
theorem examine_eq (entry : Text) :
    examine entry =
      if (squeeze entry).isEmpty then .blank
      else if !(squeeze entry).any isUpper then .noVariable
      else if (squeeze entry).count '(' ≠ (squeeze entry).count ')' then .unbalanced
      else if (squeeze entry).any (fun c => !isAllowed c) then .forbiddenCharacter
      else if (squeeze entry).contains '*' &&
        (outline entry).any (fun t => hasPart "100" t.text) then .percentage (symbols entry)
      else if (squeeze entry).contains '/' then .division (symbols entry)
      else .plain (symbols entry) := by
  have hforbidden : (strip entry).any (fun c => !isAllowed c && !isBlank c) =
      (squeeze entry).any (fun c => !isAllowed c) := by
    rw [← Text.squeeze_strip, squeeze, List.any_filter]
    simp only [Bool.and_comm]
  have hhundred : hasPart "100" (strip entry) =
      (outline entry).any (fun t => hasPart "100" t.text) := by
    rw [Bool.eq_iff_iff, List.any_eq_true, ← outline_strip entry]
    exact hasPart_iff_of_digits (by decide) (List.all_eq_true.mp (by decide)) (strip entry)
  simp only [examine, Text.isEmpty_strip, Text.any_strip (fun _ => isUpper_of_isBlank),
    Text.count_strip '(' rfl, Text.count_strip ')' rfl, hforbidden,
    Text.contains_strip '*' rfl, Text.contains_strip '/' rfl, hhundred, symbols_strip]

/-- What the check finds depends on the outline alone. -/
theorem examine_congr {formula formula' : Text} (h : outline formula = outline formula') :
    examine formula = examine formula' := by
  rw [examine_eq, examine_eq, ← flatMap_text_outline, ← flatMap_text_outline, h,
    symbols_congr h]

/-- What is asked of a formula, without its blanks. -/
structure IsSound (content : Text) : Prop where
  hasVariable : ∃ c ∈ content, isUpper c = true
  balanced : content.count '(' = content.count ')'
  allowed : ∀ c ∈ content, isAllowed c = true

/-- Of a sound formula the variables are reported. -/
theorem examine_of_isSound {entry : Text} (h : IsSound (squeeze entry)) :
    ∃ report ∈ [Finding.percentage, Finding.division, Finding.plain],
      examine entry = report (symbols entry) := by
  obtain ⟨c, hc, hupper⟩ := h.hasVariable
  have hne : ¬(squeeze entry).isEmpty = true := by
    rw [List.isEmpty_iff]
    exact List.ne_nil_of_mem hc
  have hany : (squeeze entry).any isUpper = true := List.any_eq_true.mpr ⟨c, hc, hupper⟩
  have hforbidden : ¬(squeeze entry).any (fun c => !isAllowed c) = true := by
    simpa using h.allowed
  rw [examine_eq, if_neg hne, hany, if_neg (by decide), if_neg (not_not.mpr h.balanced),
    if_neg hforbidden]
  split
  · exact ⟨.percentage, by simp, rfl⟩
  · split
    · exact ⟨.division, by simp, rfl⟩
    · exact ⟨.plain, by simp, rfl⟩

/-- The verdict on a formula whose variables are reported. -/
theorem verdict_of_report {report : List Text → Finding}
    (h : report ∈ [Finding.percentage, Finding.division, Finding.plain]) (required : Bool)
    (symbols : List Text) :
    ∃ lead ∈ (["✓ Percentage formula detected", "✓ Division formula detected",
        "✓ Valid formula"] : List String),
      (report symbols).verdict required =
        .praise (lead.toList ++ " (" ++ Text.ofNat symbols.length ++
          (if symbols.length = 1 then " variable: " else " variables: ") ++
          Text.join ", " symbols ++ ")") := by
  have hsummary : summary symbols = Text.ofNat symbols.length ++
      (if symbols.length = 1 then " variable: " else " variables: ") ++
      Text.join ", " symbols := by
    unfold summary
    by_cases hone : symbols.length = 1
    · simp [hone]
    · simp [hone]
  simp only [List.mem_cons, List.not_mem_nil, or_false] at h
  rcases h with rfl | rfl | rfl
  · refine ⟨"✓ Percentage formula detected", by simp, ?_⟩
    rw [Finding.verdict, hsummary]
    simp
  · refine ⟨"✓ Division formula detected", by simp, ?_⟩
    rw [Finding.verdict, hsummary]
    simp
  · refine ⟨"✓ Valid formula", by simp, ?_⟩
    rw [Finding.verdict, hsummary]
    simp

/-- A formula that is not blank is valid exactly if it is sound. -/
theorem valid_check_iff_isSound {entry : Text} (hne : squeeze entry ≠ []) (required : Bool) :
    (check required entry).valid = true ↔ IsSound (squeeze entry) := by
  constructor
  · rw [check, examine_eq, List.isEmpty_eq_false_iff.mpr hne, if_neg Bool.false_ne_true]
    split
    · exact fun h => nomatch h
    rename_i hupper
    split
    · exact fun h => nomatch h
    rename_i hbalanced
    split
    · exact fun h => nomatch h
    rename_i hallowed
    intro _
    exact ⟨by simpa using hupper, not_not.mp hbalanced, by simpa using hallowed⟩
  · intro h
    obtain ⟨report, hreport, hexamine⟩ := examine_of_isSound h
    obtain ⟨lead, -, hverdict⟩ := verdict_of_report hreport required (symbols entry)
    rw [check, hexamine, hverdict]
    rfl

/-! ## The tokens of a sound formula -/

theorem Kind.Admits.count_opening {k : Kind} {s : Text} (h : k.Admits s) :
    s.count '(' = if k = .opening then 1 else 0 := by
  by_cases hk : k = .opening
  · subst hk
    cases h
    rfl
  · rw [if_neg hk, List.count_eq_zero]
    exact h.not_mem hk (continues_of_isSign rfl)

theorem Kind.Admits.count_closing {k : Kind} {s : Text} (h : k.Admits s) :
    s.count ')' = if k = .closing then 1 else 0 := by
  by_cases hk : k = .closing
  · subst hk
    cases h
    rfl
  · rw [if_neg hk, List.count_eq_zero]
    exact h.not_mem hk (continues_of_isSign rfl)

/-- A character that just the tokens of a kind hold, once each, is counted
by them. -/
theorem count_eq_countP {d : Char} {k : Kind}
    (hcount : ∀ t : Token, t.kind.Admits t.text → t.text.count d = if t.kind = k then 1 else 0)
    (formula : Text) : formula.count d = (tokens formula).countP (·.kind = k) := by
  have htokens : ∀ ts : List Token, (∀ t ∈ ts, t.kind.Admits t.text) →
      (ts.flatMap Token.text).count d = ts.countP (·.kind = k) := by
    intro ts
    induction ts with
    | nil => exact fun _ => rfl
    | cons t ts ih =>
      intro hts
      obtain ⟨ht, hts⟩ := List.forall_mem_cons.mp hts
      rw [List.flatMap_cons, List.count_append, hcount t ht, ih hts, List.countP_cons,
        Nat.add_comm]
      simp only [decide_eq_true_eq]
  have hformula := htokens (tokens formula) fun t ht => admits_of_mem_tokensFrom ht
  rwa [flatMap_text_tokens] at hformula

theorem mem_iff_mem_token {formula : Text} {c : Char} :
    c ∈ formula ↔ ∃ t ∈ tokens formula, c ∈ t.text := by
  rw [← List.mem_flatMap, flatMap_text_tokens]

/-- There is an uppercase letter exactly if there is a variable. -/
theorem exists_isUpper_iff (formula : Text) :
    (∃ c ∈ squeeze formula, isUpper c = true) ↔ ∃ t ∈ tokens formula, t.kind = .variable := by
  constructor
  · rintro ⟨c, hc, hupper⟩
    obtain ⟨t, ht, hc⟩ := mem_iff_mem_token.mp (List.mem_filter.mp hc).1
    exact ⟨t, ht, (admits_of_mem_tokensFrom ht).eq_variable hc hupper⟩
  · rintro ⟨⟨k, text, start⟩, ht, rfl⟩
    cases admits_of_mem_tokensFrom ht with
    | @«variable» c cs hc hcs =>
      have hmem : c ∈ formula := mem_iff_mem_token.mpr ⟨_, ht, List.mem_cons_self⟩
      refine ⟨c, List.mem_filter.mpr ⟨hmem, ?_⟩, hc⟩
      rw [isBlank_of_isSymbolChar (by simp [isSymbolChar, hc])]
      rfl

/-- Whatever is not allowed is a token of its own, as are points and
underscores. -/
theorem Kind.Admits.allowed_iff {k : Kind} {s : Text} (h : k.Admits s) :
    (∀ c ∈ s, isBlank c = false → isAllowed c = true) ↔ (k = .other → s = ['.'] ∨ s = ['_']) := by
  cases h with
  | «variable» hc hcs =>
    refine iff_of_true (fun d hd _ => ?_) (by simp)
    rcases List.mem_cons.mp hd with rfl | hd
    · simp [isAllowed, isSymbolChar, hc]
    · simp [isAllowed, hcs d hd]
  | number hc hcs =>
    refine iff_of_true (fun d hd _ => ?_) (by simp)
    rcases List.mem_cons.mp hd with rfl | hd
    · simp [isAllowed, isSymbolChar, hc]
    · rcases hcs d hd with hd | rfl
      · simp [isAllowed, isSymbolChar, hd]
      · rfl
  | operator hc =>
    refine iff_of_true (fun d hd _ => ?_) (by simp)
    rw [List.mem_singleton.mp hd]
    simp [isAllowed, hc]
  | opening => exact iff_of_true (by simp [isAllowed]) (by simp)
  | closing => exact iff_of_true (by simp [isAllowed]) (by simp)
  | blank hc hcs =>
    refine iff_of_true (fun d hd hnot => ?_) (by simp)
    rw [allBlank_of_admits (.blank hc hcs) d hd] at hnot
    cases hnot
  | @other c hupper hdigit hoperator hopening hclosing hblank =>
    simp [isAllowed, isSymbolChar, hupper, hdigit, hoperator, hopening, hclosing, hblank, or_comm]

theorem forall_isAllowed_iff (formula : Text) :
    (∀ c ∈ squeeze formula, isAllowed c = true) ↔
      ∀ t ∈ tokens formula, t.kind = .other → t.text = ['.'] ∨ t.text = ['_'] := by
  have hsqueeze : (∀ c ∈ squeeze formula, isAllowed c = true) ↔
      ∀ t ∈ tokens formula, ∀ c ∈ t.text, isBlank c = false → isAllowed c = true := by
    constructor
    · intro h t ht c hc hblank
      exact h c (List.mem_filter.mpr ⟨mem_iff_mem_token.mpr ⟨t, ht, hc⟩, by simp [hblank]⟩)
    · intro h c hc
      obtain ⟨hmem, hblank⟩ := List.mem_filter.mp hc
      obtain ⟨t, ht, hct⟩ := mem_iff_mem_token.mp hmem
      exact h t ht c hct (by simpa using hblank)
  rw [hsqueeze]
  exact forall₂_congr fun t ht => (admits_of_mem_tokensFrom ht).allowed_iff

theorem isSound_iff_tokens (formula : Text) :
    IsSound (squeeze formula) ↔
      (∃ t ∈ tokens formula, t.kind = .variable) ∧
      openings (tokens formula) = closings (tokens formula) ∧
      ∀ t ∈ tokens formula, t.kind = .other → t.text = ['.'] ∨ t.text = ['_'] := by
  have hopen : (squeeze formula).count '(' = openings (tokens formula) := by
    rw [squeeze, List.count_filter rfl]
    exact count_eq_countP (fun t ht => ht.count_opening) formula
  have hclose : (squeeze formula).count ')' = closings (tokens formula) := by
    rw [squeeze, List.count_filter rfl]
    exact count_eq_countP (fun t ht => ht.count_closing) formula
  rw [← exists_isUpper_iff, ← forall_isAllowed_iff, ← hopen, ← hclose]
  exact ⟨fun h => ⟨h.1, h.2, h.3⟩, fun h => ⟨h.1, h.2.1, h.2.2⟩⟩

/-- **The check of a formula judges its tokens.** A formula that is not
blank is valid exactly if it has a variable, as many opening as closing
parentheses, and no other character than points and underscores for a
token of its own. The variables are then reported with their number, and
there always are some. -/
theorem check_agrees_with_tokens {formula : Text} (hne : strip formula ≠ []) (required : Bool) :
    ((check required formula).valid = true ↔
      (∃ t ∈ tokens formula, t.kind = .variable) ∧
      openings (tokens formula) = closings (tokens formula) ∧
      ∀ t ∈ tokens formula, t.kind = .other → t.text = ['.'] ∨ t.text = ['_']) ∧
    ((check required formula).valid = true →
      symbols formula ≠ [] ∧
      ∃ lead ∈ (["✓ Percentage formula detected", "✓ Division formula detected",
          "✓ Valid formula"] : List String),
        check required formula = .praise (lead.toList ++ " (" ++
          Text.ofNat (symbols formula).length ++
          (if (symbols formula).length = 1 then " variable: " else " variables: ") ++
          Text.join ", " (symbols formula) ++ ")")) := by
  have hvalid := valid_check_iff_isSound (mt Text.strip_eq_nil_iff.mpr hne) required
  refine ⟨hvalid.trans (isSound_iff_tokens formula), fun h => ?_⟩
  have hsound := hvalid.mp h
  obtain ⟨report, hreport, hexamine⟩ := examine_of_isSound hsound
  obtain ⟨lead, hlead, hverdict⟩ := verdict_of_report hreport required (symbols formula)
  refine ⟨?_, lead, hlead, by rw [check, hexamine, hverdict]⟩
  obtain ⟨t, ht, hkind⟩ := (exists_isUpper_iff formula).mp hsound.hasVariable
  refine List.ne_nil_of_mem (a := t.text) ?_
  rw [symbols, Text.mem_sortedDistinct, symbolsIn]
  exact List.mem_map_of_mem (List.mem_filter.mpr ⟨ht, by simpa using hkind⟩)

/-- Closed before it is opened, with a stray point and underscore: the
tokens are what is asked for. -/
theorem check_agrees_with_tokens_stray :
    strip " )A_1. / B_(" ≠ [] ∧ (check true " )A_1. / B_(").valid = true ∧
      ∃ lead : String, check true " )A_1. / B_(" =
        .praise (lead.toList ++ " (" ++ "2" ++ " variables: " ++ "A_1, B_" ++ ")") := by
  have hne : strip " )A_1. / B_(" ≠ [] := by decide
  obtain ⟨hvalid, hmessage⟩ := check_agrees_with_tokens hne true
  have htokens := hvalid.mpr ⟨by decide +kernel, by decide +kernel, by decide +kernel⟩
  obtain ⟨-, lead, -, hpraise⟩ := hmessage htokens
  have hsymbols : symbols " )A_1. / B_(" = [("A_1" : Text), ("B_" : Text)] := by decide +kernel
  rw [hsymbols] at hpraise
  exact ⟨hne, htokens, lead, hpraise⟩

end Formula
end MetricAudit
