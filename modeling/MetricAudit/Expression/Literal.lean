/-
MetricAudit.Expression.Literal — expressions that are values as they
stand.

A literal is a number, a text, one of the constants, or a tuple, a set or
a table of literals. What is in a set, and the key of a table, has to be
something that does not change: neither a set nor a table, nor a tuple
with one of them in it.

`fault?` says why an expression is no literal.
-/
import MetricAudit.Expression.Reader

namespace MetricAudit.Expression.Literal

/-- What a literal is, as far as its use in sets and tables goes. -/
inductive Value where
  | integer
  | real
  | imaginary
  | constant
  /-- It holds something that can change: a set or a table, by name. -/
  | changeable (name : Text)
  deriving DecidableEq, Repr

/-- Why an expression is no literal. -/
inductive Fault where
  | noLiteral (description : Text)
  /-- Entries of another table are taken over. -/
  | spread
  | changeable (name : Text)
  deriving DecidableEq, Repr

def Fault.message : Fault → Text
  | .noLiteral description => "malformed node or string on line 1: " ++ description
  | .spread => "malformed node or string: None"
  | .changeable name => "unhashable type: '" ++ name ++ "'"

/-- The value of a number. -/
def numberValue (t : Token) : Value :=
  let based := ["0x", "0o", "0b"].any fun mark =>
    mark.toList.isPrefixOf (t.text.map Char.toLower)
  if based then .integer
  else if t.text.getLast?.any fun c => c == 'j' || c == 'J' then .imaginary
  else if t.text.any fun c => c == '.' || c == 'e' || c == 'E' then .real
  else .integer

/-- The value of an expression that is one token. -/
def tokenValue (t : Token) : Except Fault Value :=
  match t.kind with
  | .number => .ok (numberValue t)
  | .name => .error (.noLiteral (Tree.leafDescription t))
  | _ => .ok .constant

/-- The value of a number that can have a sign. -/
def signedValue? : Tree → Option Value
  | .leaf t => if t.kind = .number then some (numberValue t) else none
  | .node .unary [op, .leaf t] =>
    if t.kind = .number && (Tree.isToken "+" op || Tree.isToken "-" op) then
      some (numberValue t)
    else none
  | _ => none

/-- The value of a number and an imaginary number put together. -/
def complexValue? : List Tree → Option Value
  | [left, op, .leaf t] => do
    let value ← signedValue? left
    if (Tree.isToken "+" op || Tree.isToken "-" op) && value != .imaginary
        && t.kind = .number && numberValue t = .imaginary then
      some .imaginary
    else none
  | _ => none

/-- Put a value where nothing changeable can be. -/
def unchangeable (value : Value) : Except Fault Unit :=
  match value with
  | .changeable name => .error (.changeable name)
  | _ => .ok ()

/-- Whether a call makes an empty set. -/
def isEmptySet : List Tree → Bool
  | [f] => f.name? == some "set".toList
  | _ => false

mutual

/-- The value of an expression. -/
def value : Tree → Except Fault Value
  | .leaf t => tokenValue t
  | .node form parts =>
    match form with
    | .texts =>
      if parts.any Tree.isTemplate then
        .error (.noLiteral (Tree.node form parts).description)
      else .ok .constant
    | .tuple => tupleValue parts
    | .collection => do
      membersValue parts
      return .changeable "set"
    | .table => do
      entriesValue parts
      return .changeable "dict"
    | .call =>
      if isEmptySet parts then .ok (.changeable "set")
      else .error (.noLiteral (Tree.node form parts).description)
    | _ =>
      match if form = .binary then complexValue? parts else signedValue? (.node form parts) with
      | some value => .ok value
      | none => .error (.noLiteral (Tree.node form parts).description)

/-- The value of a tuple: it can change if one of its parts can. -/
def tupleValue : List Tree → Except Fault Value
  | [] => .ok .constant
  | tree :: trees => do
    let first ← value tree
    let rest ← tupleValue trees
    match first with
    | .changeable name => return .changeable name
    | _ => return rest

/-- Put values into a set. -/
def membersValue : List Tree → Except Fault Unit
  | [] => .ok ()
  | tree :: trees => do
    unchangeable (← value tree)
    membersValue trees

/-- Put entries into a table. -/
def entriesValue : List Tree → Except Fault Unit
  | [] => .ok ()
  | .node .entry [key, entry] :: trees => do
    let key ← value key
    let _ ← value entry
    unchangeable key
    entriesValue trees
  | _ :: _ => .error .spread

end

end MetricAudit.Expression.Literal
