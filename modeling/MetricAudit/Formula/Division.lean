/-
MetricAudit.Formula.Division — what a formula divides by.

The divisors of a formula are the variables that stand directly after a
slash, or anywhere in the group that a slash is followed by; a group that
is never closed reaches to the end of the formula. `denominators` lists
the variables of a formula that are divisors.

A direct division has a variable of a single letter on either side of the
slash. `directDivision?` finds the first.
-/
import MetricAudit.Formula.Variable

namespace MetricAudit.Formula

/-- The token is a slash. -/
def Token.isSlash (t : Token) : Bool := t.text == ['/']

/-- The symbols in the rest of a group inside `depth` further open
groups, up to the parenthesis that closes it. -/
def groupSymbols (depth : Nat) : List Token → List Text
  | [] => []
  | t :: ts =>
    match t.kind with
    | .variable => t.text :: groupSymbols depth ts
    | .opening => groupSymbols (depth + 1) ts
    | .closing =>
      match depth with
      | 0 => []
      | d + 1 => groupSymbols d ts
    | _ => groupSymbols depth ts

/-- The symbols of the operand that starts a list of tokens: a variable
by itself, or those in a group. -/
def operandSymbols : List Token → List Text
  | [] => []
  | t :: ts =>
    match t.kind with
    | .variable => [t.text]
    | .opening => groupSymbols 0 ts
    | _ => []

/-- The symbols of every operand that follows a slash. -/
def divisorsIn : List Token → List Text
  | [] => []
  | t :: ts => if t.isSlash then operandSymbols ts ++ divisorsIn ts else divisorsIn ts

/-- The symbols that a formula divides by, in their order, with
repetitions. -/
def divisors (formula : Text) : List Text := divisorsIn (significantTokens formula)

/-- Whether a formula divides by a symbol. -/
def isDenominator (formula symbol : Text) : Bool :=
  if symbol.isEmpty || formula.isEmpty then false else (divisors formula).contains symbol

/-- The symbols of a list that a formula divides by. -/
def denominatorsAmong (formula : Text) (symbols : List Text) : List Text :=
  let divisors := divisors formula
  symbols.filter divisors.contains

/-- The variables of a formula that it divides by. -/
def denominators (formula : Text) : List Text :=
  denominatorsAmong formula (symbols formula)

/-! ## Direct divisions -/

/-- A variable of a single letter. -/
def Token.isLetter (t : Token) : Bool := t.kind = .variable && t.text.length == 1

/-- The sides of the first direct division in a list of tokens. -/
def directDivisionIn? : List Token → Option (Text × Text)
  | left :: slash :: right :: rest =>
    if slash.isSlash && left.isLetter && right.isLetter then
      some (left.text, right.text)
    else directDivisionIn? (slash :: right :: rest)
  | _ => none

/-- The sides of the first direct division of a formula. -/
def directDivision? (formula : Text) : Option (Text × Text) :=
  directDivisionIn? (significantTokens formula)

end MetricAudit.Formula
