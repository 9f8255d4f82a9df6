/-
MetricAudit.Proofs.Metric.Symbol — the symbols that may be declared are
the ones that a formula can mention.

A variable is declared by its symbol in a field of its own, and used in a
formula. The field takes the blanks off the entry and asks for the form of
a symbol; the formula is cut into tokens. Neither knows of the other, but
a text of the form of a symbol is cut into one token
(`tokens_of_isSymbol`), and what is cut off as a variable has the form
(`isSymbol_of_mem_symbols`). So an entry is accepted exactly if, read as a
formula, it has one variable, which is the whole of it
(`checkSymbol_agrees_with_symbols`).

A pattern for lines matches a symbol with a newline behind it as well as
the symbol alone (`IsSymbolLine`). Nothing slips through by this: the
newline is a blank, and the blanks are off (`isSymbolLine_strip_iff`).
-/
import MetricAudit.Proofs.Metric.Declaration

namespace MetricAudit

open Text (strip isBlank)

namespace Formula

/-! ## Symbols as formulas -/

/-- The scanner goes on to the end of a symbol. -/
theorem tokens_of_isSymbol {x : Text} (hx : isSymbol x = true) :
    tokens x = [⟨.variable, x, 0⟩] := by
  cases x with
  | nil => cases hx
  | cons c cs =>
    obtain ⟨hc, hcs⟩ := Bool.and_eq_true_iff.mp hx
    have hall : ∀ d ∈ cs, Kind.continues .variable d = true := List.all_eq_true.mp hcs
    rw [tokens, tokensFrom, ofFirst_of_isUpper hc]
    rw [List.takeWhile_eq_self_iff.mpr hall, List.dropWhile_eq_nil_iff.mpr hall, tokensFrom]

theorem symbols_of_isSymbol {x : Text} (hx : isSymbol x = true) : symbols x = [x] := by
  rw [symbols, tokens_of_isSymbol hx]
  rfl

/-- A text is its own variable, and has no other, exactly if it is a
symbol. -/
theorem symbols_eq_singleton_iff {x : Text} : symbols x = [x] ↔ isSymbol x = true := by
  refine ⟨fun h => ?_, symbols_of_isSymbol⟩
  have hmem : x ∈ symbols x := by
    rw [h]
    exact List.mem_singleton_self x
  exact isSymbol_of_mem_symbols hmem

/-! ## Symbols as lines -/

/-- A symbol, with a newline behind it or without. -/
def IsSymbolLine (s : Text) : Prop :=
  ∃ x, isSymbol x = true ∧ (s = x ∨ s = x ++ ['\n'])

/-- Without the blanks around it no text ends with a newline. -/
theorem isSymbolLine_strip_iff {entry : Text} :
    IsSymbolLine (strip entry) ↔ isSymbol (strip entry) = true := by
  constructor
  · rintro ⟨x, hx, h | h⟩
    · rwa [h]
    · have hblank : Text.AllBlank ['\n'] := List.forall_mem_singleton.mpr rfl
      have hstrip : strip entry = Text.stripEnd x := by
        rw [← Text.stripEnd_strip entry, h, Text.stripEnd_append hblank]
      have hlength := congrArg List.length (h.symm.trans hstrip)
      have hle : (Text.stripEnd x).length ≤ x.length := by
        rw [Text.stripEnd_eq]
        exact (List.rdropWhile_prefix _ _).length_le
      rw [List.length_append, List.length_singleton] at hlength
      omega
  · exact fun h => ⟨_, h, Or.inl rfl⟩

end Formula

namespace Field

/-- **A symbol may be declared exactly if a formula can mention it.** The
entry is accepted if it is, without the blanks around it, its only
variable as a formula, and has at most 30 characters. The same entries
are accepted where a newline is let pass behind the symbol. -/
theorem checkSymbol_agrees_with_symbols (entry : Text) :
    ((checkSymbol entry).valid = true ↔
      Formula.symbols entry = [strip entry] ∧ (strip entry).length ≤ 30) ∧
    ((checkSymbol entry).valid = true ↔
      Formula.IsSymbolLine (strip entry) ∧ (strip entry).length ≤ 30) := by
  have hsymbols : Formula.symbols entry = [strip entry] ↔
      Formula.isSymbol (strip entry) = true := by
    rw [← Formula.symbols_strip, Formula.symbols_eq_singleton_iff]
  rw [valid_checkSymbol_iff, hsymbols, Formula.isSymbolLine_strip_iff]
  exact ⟨Iff.rfl, Iff.rfl⟩

/-- Blanks around a symbol are of no account, but a letter of another
script is. -/
example : (checkSymbol " V_1\n").valid = true ∧ (checkSymbol "VÉ").valid = false ∧
    Formula.symbols "VÉ" = ["V"] := by
  decide +kernel

end Field
end MetricAudit
