/-
MetricAudit.Proofs.Metric.Outline — blanks between the tokens of a
formula.

All that is worked out of a formula depends on its outline only
(`readAlike_of_outline_eq`), so blanks make no difference where they
leave the outline alone.

Blanks separate: what stands before them and what stands behind them is
scanned as if it were by itself (`outline_append_of_blank`). They may be
put where one token ends and another starts, for there the scanner starts
anew in any case (`outline_of_tokens_append`). This needs no scan: there
is one way to cut a text into tokens, and both parts of a cut are cuts of
their own (`Cuts.left`, `Cuts.right`).

`readAlike_insert` is the main theorem.
-/
import MetricAudit.Metric.Declaration
import MetricAudit.Metric.Fixed
import MetricAudit.Proofs.Formula.Check

namespace MetricAudit

open Text (AllBlank isBlank strip)

namespace Formula

/-! ## Blanks at the end of a token -/

/-- Cut between two of its tokens, a formula has the outline of the one
part and then that of the other. -/
theorem outline_of_tokens_append {formula : Text} {left right : List Token}
    (h : tokens formula = left ++ right) :
    outline formula = outline (left.flatMap Token.text) ++ outline (right.flatMap Token.text) := by
  have hcuts : Cuts 0 formula (left ++ right) := (cuts_iff formula _).mpr h.symm
  have hleft := (cuts_iff_eq_tokensFrom _ _ _).mp hcuts.left
  have hright := (cuts_iff_eq_tokensFrom _ _ _).mp (Cuts.right left hcuts)
  have hformula : tokensFrom 0 formula = left ++ right := h
  rw [outline_eq 0 formula, hformula, List.map_append, List.filter_append,
    outline_eq _ (left.flatMap Token.text), ← hleft,
    outline_eq _ (right.flatMap Token.text), ← hright]

/-- Blanks between two tokens are not part of the outline. -/
theorem outline_insert {formula : Text} {left right : List Token}
    (h : tokens formula = left ++ right) {w : Text} (hw : AllBlank w) :
    outline (left.flatMap Token.text ++ w ++ right.flatMap Token.text) = outline formula := by
  rw [List.append_assoc]
  cases w with
  | nil => rw [List.nil_append, ← List.flatMap_append, ← h, flatMap_text_tokens]
  | cons c cs =>
    have hstart : ∀ d ∈ (c :: cs ++ right.flatMap Token.text).head?, isBlank d = true := by
      intro d hd
      obtain rfl : c = d := by simpa using hd
      exact hw c List.mem_cons_self
    rw [outline_append_of_blank hstart, outline_blank_append hw, outline_of_tokens_append h]

/-! ## Tokens with blanks between them -/

theorem tokenOf_text {t : Token} (h : t.kind.Admits t.text) : tokenOf t.text = t.unplaced := by
  obtain ⟨k, text, start⟩ := t
  cases text with
  | nil => cases h
  | cons c cs =>
    obtain ⟨rfl, -⟩ := admits_cons_iff.mp h
    rfl

/-- Tokens with a space between each two of them are scanned one by
one. -/
theorem outline_join {ts : List Text} (hts : ∀ t ∈ ts, IsToken t) :
    outline (Text.join " " ts) = ts.map tokenOf := by
  induction ts with
  | nil => exact outline_nil
  | cons t ts ih =>
    obtain ⟨ht, hts⟩ := List.forall_mem_cons.mp hts
    have hfirst : outline t = [tokenOf t] := by
      have happend := outline_token_append ht (s := []) (fun _ hc => nomatch hc)
      rwa [List.append_nil, outline_nil] at happend
    cases ts with
    | nil => rw [Text.join, List.intercalate_singleton, hfirst, List.map_singleton]
    | cons u us =>
      have hsplit : Text.join " " (t :: u :: us) = t ++ ' ' :: Text.join " " (u :: us) := by
        rw [Text.join, List.intercalate_cons_cons, List.append_assoc]
        rfl
      have hspace : ∀ c ∈ (' ' :: Text.join " " (u :: us)).head?, isBlank c = true := by
        rintro c ⟨⟩
        rfl
      rw [hsplit, outline_append_of_blank hspace, hfirst, outline_cons_of_isBlank rfl, ih hts]
      rfl

/-- The tokens of a formula other than blanks can be read off their texts
with single spaces between them. -/
theorem outline_join_significantTokens (formula : Text) :
    outline (Text.join " " ((significantTokens formula).map Token.text)) = outline formula := by
  have hmem : ∀ t ∈ significantTokens formula, t.kind.Admits t.text ∧ t.kind ≠ .blank := by
    intro t ht
    obtain ⟨ht, hkind⟩ := List.mem_filter.mp ht
    exact ⟨admits_of_mem_tokensFrom ht, by simpa using hkind⟩
  rw [outline_join, List.map_map, outline]
  · exact List.map_congr_left fun t ht => tokenOf_text (hmem t ht).1
  · intro u hu
    obtain ⟨t, ht, rfl⟩ := List.mem_map.mp hu
    exact isToken_of_admits (hmem t ht).1 (hmem t ht).2

end Formula

/-! ## What is read of a formula -/

/-- Two formulas say the same: in their tokens other than blanks, and in
all that is worked out of them. -/
structure ReadAlike (formula formula' : Text) : Prop where
  outline : Formula.outline formula' = Formula.outline formula
  symbols : Formula.symbols formula' = Formula.symbols formula
  directDivision? : Formula.directDivision? formula' = Formula.directDivision? formula
  denominators : Formula.denominators formula' = Formula.denominators formula
  denominatorsAmong : ∀ symbols,
    Formula.denominatorsAmong formula' symbols = Formula.denominatorsAmong formula symbols
  infer : ∀ desired worst,
    FixedVariable.infer formula' desired worst = FixedVariable.infer formula desired worst
  inferRemarks : ∀ desired worst,
    FixedVariable.inferRemarks formula' desired worst =
      FixedVariable.inferRemarks formula desired worst
  checkDeclared : ∀ declared,
    Declaration.check formula' declared = Declaration.check formula declared
  check : ∀ required, Formula.check required formula' = Formula.check required formula

/-- What is worked out of a formula depends on its outline only. -/
theorem readAlike_of_outline_eq {formula formula' : Text}
    (h : Formula.outline formula' = Formula.outline formula) : ReadAlike formula formula' := by
  have hblank : (strip formula').isEmpty = (strip formula).isEmpty := by
    rw [Text.isEmpty_strip, Text.isEmpty_strip, ← Formula.flatMap_text_outline, h,
      Formula.flatMap_text_outline]
  have hinfer : ∀ desired worst,
      FixedVariable.infer formula' desired worst = FixedVariable.infer formula desired worst := by
    intro desired worst
    rw [FixedVariable.infer, FixedVariable.infer?, hblank, Formula.directDivision?_congr h]
    rfl
  constructor
  case outline => exact h
  case symbols => exact Formula.symbols_congr h
  case directDivision? => exact Formula.directDivision?_congr h
  case denominators => exact Formula.denominators_congr h
  case denominatorsAmong => exact Formula.denominatorsAmong_congr h
  case infer => exact hinfer
  case inferRemarks =>
    intro desired worst
    rw [FixedVariable.inferRemarks, hblank, hinfer]
    rfl
  case checkDeclared =>
    intro declared
    rw [Declaration.check, Declaration.examine, hblank, Formula.symbols_strip,
      Formula.symbols_congr h, ← Formula.symbols_strip formula]
    rfl
  case check =>
    intro required
    rw [Formula.check, Formula.examine_congr h]
    rfl

/-! ## Blanks between the tokens -/

/-- **Blanks between the tokens of a formula do not count.** Wherever one
token ends and another starts, at the start of a formula and at its end,
any blanks may be put in, and the tokens besides blanks may be written
anew with single spaces between them: the formula keeps these tokens, and
the same is worked out of it. -/
theorem readAlike_insert {formula : Text} {left right : List Formula.Token}
    (h : Formula.tokens formula = left ++ right) {w : Text} (hw : AllBlank w) :
    left.flatMap Formula.Token.text ++ right.flatMap Formula.Token.text = formula ∧
    ReadAlike formula
      (left.flatMap Formula.Token.text ++ w ++ right.flatMap Formula.Token.text) ∧
    ReadAlike formula
      (Text.join " " ((Formula.significantTokens formula).map Formula.Token.text)) := by
  refine ⟨?_, readAlike_of_outline_eq (Formula.outline_insert h hw),
    readAlike_of_outline_eq (Formula.outline_join_significantTokens formula)⟩
  rw [← List.flatMap_append, ← h, Formula.flatMap_text_tokens]

/-- Blanks before the number of a percentage. -/
theorem readAlike_insert_percentage :
    ∃ left right : List Formula.Token, Formula.tokens "N_1/(B+2.5)*100" = left ++ right ∧
      AllBlank "\t " ∧ left.flatMap Formula.Token.text = ("N_1/(B+2.5)*" : Text) ∧
      ReadAlike "N_1/(B+2.5)*100" "N_1/(B+2.5)*\t 100" ∧
      ReadAlike "N_1/(B+2.5)*100" "N_1 / ( B + 2.5 ) * 100" := by
  let ts := Formula.tokens "N_1/(B+2.5)*100"
  have hsplit : ts = ts.take 8 ++ ts.drop 8 := (List.take_append_drop 8 ts).symm
  have hblank : AllBlank "\t " := List.all_eq_true.mp (by decide)
  have hleft : (ts.take 8).flatMap Formula.Token.text = ("N_1/(B+2.5)*" : Text) := by
    decide +kernel
  have hright : (ts.drop 8).flatMap Formula.Token.text = ("100" : Text) := by decide +kernel
  have hjoin : Text.join " "
      ((Formula.significantTokens "N_1/(B+2.5)*100").map Formula.Token.text) =
        ("N_1 / ( B + 2.5 ) * 100" : Text) := by decide +kernel
  obtain ⟨-, hinsert, hspaces⟩ := readAlike_insert hsplit hblank
  rw [hleft, hright] at hinsert
  rw [hjoin] at hspaces
  exact ⟨ts.take 8, ts.drop 8, hsplit, hblank, hleft, hinsert, hspaces⟩

end MetricAudit
