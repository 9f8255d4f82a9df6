/-
MetricAudit.Formula.Token — the tokens of a formula.

A formula is cut into tokens from the left, each as long as its kind
allows: symbols of variables, numbers, single operators and parentheses,
runs of blanks. A character that starts no other token is one by itself,
so every text has tokens, and their texts put together give it back.

The kind of a token is decided by its first character (`Kind.ofFirst`),
its length by the characters that may follow (`Kind.continues`).
-/
import MetricAudit.Text.Blank
import MetricAudit.Text.DecimalDigit

namespace MetricAudit.Formula

/-- An uppercase ASCII letter. -/
def isUpper (c : Char) : Bool := 'A' ≤ c && c ≤ 'Z'

/-- A character of a symbol after its first. -/
def isSymbolChar (c : Char) : Bool := isUpper c || Text.isAsciiDigit c || c == '_'

/-- One of the four operators. -/
def isOperator (c : Char) : Bool := c == '+' || c == '-' || c == '*' || c == '/'

/-- The kinds of tokens. -/
inductive Kind where
  | variable
  | number
  | operator
  | opening
  | closing
  | blank
  | other
  deriving DecidableEq, Repr

namespace Kind

def name : Kind → Text
  | .variable => "variable"
  | .number => "number"
  | .operator => "operator"
  | .opening => "lparen"
  | .closing => "rparen"
  | .blank => "whitespace"
  | .other => "other"

/-- The kind of the token that starts with a character. -/
def ofFirst (c : Char) : Kind :=
  if isUpper c then .variable
  else if Text.isAsciiDigit c then .number
  else if isOperator c then .operator
  else if c = '(' then .opening
  else if c = ')' then .closing
  else if Text.isBlank c then .blank
  else .other

/-- The characters that extend a token of a kind. -/
def continues : Kind → Char → Bool
  | .variable, c => isSymbolChar c
  | .number, c => Text.isAsciiDigit c || c == '.'
  | .blank, c => Text.isBlank c
  | _, _ => false

end Kind

/-- A token: its kind, its text, and the position where it starts. -/
structure Token where
  kind : Kind
  text : Text
  start : Nat
  deriving DecidableEq, Repr

/-- The tokens of a text that starts at a position. -/
def tokensFrom (start : Nat) : Text → List Token
  | [] => []
  | c :: cs =>
    let kind := Kind.ofFirst c
    let more := cs.takeWhile kind.continues
    ⟨kind, c :: more, start⟩
      :: tokensFrom (start + more.length + 1) (cs.dropWhile kind.continues)
termination_by s => s.length
decreasing_by
  simp only [List.length_cons]
  have := (List.dropWhile_sublist (l := cs) (Kind.ofFirst c).continues).length_le
  omega

/-- The texts of the tokens put together give the text back. -/
theorem flatMap_text_tokensFrom (start : Nat) (s : Text) :
    (tokensFrom start s).flatMap Token.text = s := by
  fun_induction tokensFrom start s with
  | case1 => rfl
  | case2 start c cs kind more ih =>
    rw [List.flatMap_cons, ih, List.cons_append, List.takeWhile_append_dropWhile]

/-- The tokens of a formula. -/
def tokens (formula : Text) : List Token := tokensFrom 0 formula

/-- The texts of the tokens put together give the formula back. -/
theorem flatMap_text_tokens (formula : Text) :
    (tokens formula).flatMap Token.text = formula :=
  flatMap_text_tokensFrom 0 formula

/-- The tokens of a formula other than blanks. -/
def significantTokens (formula : Text) : List Token :=
  (tokens formula).filter fun t => t.kind ≠ .blank

end MetricAudit.Formula
