/-
MetricAudit.Metric.Declaration — the variables declared for a formula.

A metric declares the variables of its formula. The declared symbols are
taken without the blanks around them; blank ones and repetitions do not
count. They must be the variables of the formula: those that are missing
are reported first, then those that are not used. Where neither are left, the
two must be as many. Without a formula nothing may be declared.
-/
import MetricAudit.Formula.Variable
import MetricAudit.Verdict

namespace MetricAudit

/-- A declared variable. -/
structure Declaration where
  symbol : Text
  description : Text := []
  deriving DecidableEq, Repr

namespace Declaration

/-- Declarations of symbols without descriptions. -/
def ofSymbols (symbols : List Text) : List Declaration :=
  symbols.map fun s => { symbol := s }

/-- The distinct symbols that are declared, sorted. -/
def symbols (declared : List Declaration) : List Text :=
  Text.sortedDistinct
    ((declared.map fun d => Text.strip d.symbol).filter fun s => !s.isEmpty)

/-- What there is to say about the declarations for a formula. -/
inductive Finding where
  | nothingDeclared
  | withoutFormula
  | missing (symbols : List Text)
  | unused (symbols : List Text)
  /-- Neither list lacks a symbol of the other, and one is longer. -/
  | uneven
  | agreed (count : Nat)
  deriving DecidableEq, Repr

/-- The symbols of the first list that are not in the second. -/
def without (these those : List Text) : List Text :=
  these.filter fun s => !those.contains s

/-- Compare the declarations with the variables of a formula. -/
def examine (formula : Text) (declared : List Declaration) : Finding :=
  if (Text.strip formula).isEmpty then
    if declared.isEmpty then .nothingDeclared else .withoutFormula
  else
    let used := Formula.symbols (Text.strip formula)
    let defined := symbols declared
    if !(without used defined).isEmpty then .missing (without used defined)
    else if !(without defined used).isEmpty then .unused (without defined used)
    else if used.length ≠ defined.length then .uneven
    else .agreed used.length

/-- A finding as a verdict. -/
def Finding.verdict : Finding → Verdict
  | .nothingDeclared => .fine
  | .withoutFormula => .fail "Cannot declare variables without a formula"
  | .missing symbols =>
    .fail ("Missing variable declarations: " ++ Text.join ", " symbols)
  | .unused symbols =>
    .fail ("Variables not used in the formula: " ++ Text.join ", " symbols
      ++ ". Remove them or use them in the formula.")
  | .uneven => .fail "variable sets differ after missing/extra checks"
  | .agreed count =>
    let ending : Text := if count = 1 then "" else "s"
    .praise ("✓ All " ++ Text.ofNat count ++ " variable" ++ ending
      ++ " correctly declared")

/-- The verdict on the declarations for a formula. -/
def check (formula : Text) (declared : List Declaration) : Verdict :=
  (examine formula declared).verdict

end Declaration
end MetricAudit
