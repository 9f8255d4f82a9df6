/-
MetricAudit.Expression.Tree — expressions as trees.

The leaves of a tree are tokens, and its nodes say how their parts make
an expression. `Tree.description` names what an expression is, as
messages do.
-/
import MetricAudit.Expression.Token

namespace MetricAudit.Expression

/-- How the parts of a node make an expression, or a part of one. -/
inductive Form where
  | texts
  | tuple
  | collection
  | table
  /-- A key and its value. -/
  | entry
  /-- A table whose entries are taken over. -/
  | spreadEntry
  | call
  | attribute
  | starred
  | unary
  | binary
  | logical
  | comparison
  | conditional
  | function
  | generator
  | collectionGenerator
  | tableGenerator
  | assignment
  | awaited
  | yielded
  /-- An argument with a name. -/
  | namedArgument
  /-- Arguments that are taken over with their names. -/
  | spreadArgument
  /-- The arguments of a call. -/
  | arguments
  deriving DecidableEq, Repr

/-- An expression, or a part of one. -/
inductive Tree where
  | leaf (token : Token)
  | node (form : Form) (parts : List Tree)

namespace Tree

instance : Inhabited Tree := ⟨.node .tuple []⟩

/-- Whether a token in quotes has a mark before its quotes. -/
def hasMark (mark : Char) (t : Token) : Bool :=
  (t.text.takeWhile fun c => c != '"' && c != '\'').any fun c => c.toLower == mark

/-- Whether a tree is a text with expressions in it. -/
def isTemplate : Tree → Bool
  | .leaf t => hasMark 'f' t
  | .node _ _ => false

/-- What a leaf is. -/
def leafDescription (t : Token) : Text :=
  match t.kind with
  | .name => "name"
  | .keyword => t.text
  | .sign => "ellipsis"
  | _ => "literal"

/-- What an expression is, in words. -/
def description : Tree → Text
  | .leaf t => leafDescription t
  | .node form parts =>
    match form with
    | .texts => if parts.any isTemplate then "f-string expression" else "literal"
    | .tuple => "tuple"
    | .collection => "set display"
    | .table => "dict literal"
    | .call => "function call"
    | .attribute => "attribute"
    | .starred => "starred"
    | .unary => "expression"
    | .binary => "expression"
    | .logical => "expression"
    | .comparison => "comparison"
    | .conditional => "conditional expression"
    | .function => "lambda"
    | .generator => "generator expression"
    | .collectionGenerator => "set comprehension"
    | .tableGenerator => "dict comprehension"
    | .assignment => "named expression"
    | .awaited => "await expression"
    | .yielded => "yield expression"
    | .entry => "expression"
    | .spreadEntry => "expression"
    | .namedArgument => "expression"
    | .spreadArgument => "expression"
    | .arguments => "expression"

/-- Whether a tree is the sign or keyword with this text. -/
def isToken (text : Text) : Tree → Bool
  | .leaf t => (t.kind == .sign || t.kind == .keyword) && t.text == text
  | .node _ _ => false

/-- The name that a tree is. -/
def name? : Tree → Option Text
  | .leaf t => if t.kind = .name then some t.text else none
  | .node _ _ => none

mutual

/-- The first part of a target of a loop that nothing can be assigned to.
Of a test for membership only what is tested counts, since a target and
the sequence after it read like such a test. -/
def notAssignable? : Tree → Option Tree
  | .leaf t => if t.kind = .name then none else some (.leaf t)
  | .node .tuple parts => firstNotAssignable? parts
  | .node .starred parts => firstNotAssignable? parts
  | .node .comparison (tested :: op :: _) =>
    if isToken "in" op then notAssignable? tested else none
  | .node .attribute _ => none
  | .node form parts => some (.node form parts)

def firstNotAssignable? : List Tree → Option Tree
  | [] => none
  | tree :: trees => (notAssignable? tree).or (firstNotAssignable? trees)

end

end Tree
end MetricAudit.Expression
