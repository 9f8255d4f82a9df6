/-
MetricAudit.Formula.Variable — the variables of a formula.

A variable is named by a symbol: an uppercase letter, and then uppercase
letters, digits and underscores. `symbols` lists the symbols of a
formula once each, in code-point order.
-/
import MetricAudit.Formula.Token

namespace MetricAudit.Formula

/-- Whether a text is a symbol. -/
def isSymbol : Text → Bool
  | [] => false
  | c :: cs => isUpper c && cs.all isSymbolChar

/-- The symbols in a list of tokens, in their order. -/
def symbolsIn (ts : List Token) : List Text :=
  (ts.filter fun t => t.kind = .variable).map (·.text)

/-- The distinct symbols of a formula, sorted. -/
def symbols (formula : Text) : List Text :=
  Text.sortedDistinct (symbolsIn (tokens formula))

end MetricAudit.Formula
