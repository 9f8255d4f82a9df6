/-
MetricAudit.Formula.Check — formulas typed into a form.

A formula must hold an uppercase letter, as many opening as closing
parentheses, and no character besides blanks and those of `isAllowed`.
Only the numbers of parentheses are compared, not their nesting. A blank
formula is an error where one is required, and a warning elsewhere.

A valid formula is a percentage when it holds an asterisk and the digits
100, otherwise a division when it holds a slash.
-/
import MetricAudit.Formula.Variable
import MetricAudit.Verdict

namespace MetricAudit.Formula

/-- The characters of formulas besides blanks. -/
def isAllowed (c : Char) : Bool :=
  isSymbolChar c || isOperator c || c == '(' || c == ')' || c == '.'

/-- What there is to say about a formula. -/
inductive Finding where
  | blank
  | noVariable
  | unbalanced
  | forbiddenCharacter
  | percentage (symbols : List Text)
  | division (symbols : List Text)
  | plain (symbols : List Text)
  deriving DecidableEq, Repr

/-- Examine a formula. -/
def examine (entry : Text) : Finding :=
  let formula := Text.strip entry
  if formula.isEmpty then .blank
  else if !formula.any isUpper then .noVariable
  else if formula.count '(' ≠ formula.count ')' then .unbalanced
  else if formula.any (fun c => !isAllowed c && !Text.isBlank c) then
    .forbiddenCharacter
  else if formula.contains '*' && Text.hasPart "100" formula then
    .percentage (symbols formula)
  else if formula.contains '/' then .division (symbols formula)
  else .plain (symbols formula)

/-- How many variables there are, and which. -/
def summary (symbols : List Text) : Text :=
  let noun : Text := if symbols.length = 1 then "variable" else "variables"
  Text.ofNat symbols.length ++ ' ' :: noun ++ ": " ++ Text.join ", " symbols

/-- A finding as a verdict. -/
def Finding.verdict (required : Bool) : Finding → Verdict
  | .blank =>
    if required then .fail "The formula is mandatory for metrics"
    else .caution
      "The formula is optional, but it enables automatic calculations"
  | .noVariable =>
    .fail "The formula must contain at least one variable (uppercase letters: A, B, C, ...)"
  | .unbalanced => .fail "Unbalanced parentheses in the formula"
  | .forbiddenCharacter =>
    .fail "The formula contains forbidden characters. Use: A-Z, 0-9, +, -, *, /, (, ), ., _"
  | .percentage symbols =>
    .praise ("✓ Percentage formula detected (" ++ summary symbols ++ ")")
  | .division symbols =>
    .praise ("✓ Division formula detected (" ++ summary symbols ++ ")")
  | .plain symbols => .praise ("✓ Valid formula (" ++ summary symbols ++ ")")

/-- The verdict on a formula. -/
def check (required : Bool) (entry : Text) : Verdict := (examine entry).verdict required

end MetricAudit.Formula
