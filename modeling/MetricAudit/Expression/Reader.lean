/-
MetricAudit.Expression.Reader — reading expressions.

The tokens of a text are read by the grammar, first without the ways for
mistakes. If they make no expression, they are read once more with them,
and the first complaint that comes up is the one to report. A fault of
the tokens comes up where the reading gets to it; those that prevail are
reported even if it does not.

`read` gives the tree of a text, or what is wrong with it.
-/
import Std.Data.HashMap
import MetricAudit.Expression.Grammar

namespace MetricAudit.Expression

/-- What a pattern comes to: the trees it reads, and the position after
them, or nothing. -/
abbrev Match := Option (List Tree × Nat)

/-- What rules have come to, by rule and position. -/
abbrev Kept := Std.HashMap (Rule × Nat) Match

/-- A reading that keeps what rules come to, up to a fault. -/
abbrev Reading := StateT Kept (Except Fault)

namespace Tokens

/-- The token at a position, or the fault that stands there. -/
def get (ts : Tokens) (i : Nat) : Except Fault (Option Token) :=
  match ts.tokens[i]?, ts.fault with
  | some t, _ => .ok (some t)
  | none, some fault => .error (.lexical fault)
  | none, none => .ok none

/-- The token of a class at a position. -/
def getOf (ts : Tokens) (c : TokenClass) (i : Nat) : Except Fault (Option Token) := do
  return (← ts.get i).filter fun t => c.holds t

/-- The token before a position. -/
def before (ts : Tokens) (i : Nat) : Token := ts.tokens.getD (i - 1) ⟨.finish, [], 0⟩

/-- What to report of a fault that was met: rather the fault of the tokens,
if it prevails. -/
def report (ts : Tokens) (fault : Fault) : Fault :=
  match fault, ts.fault with
  | .complaint _, some lexical => if lexical.prevails then .lexical lexical else fault
  | _, _ => fault

end Tokens

/-- Trees in the form of a node. -/
def wrap (f : Form) : Match → Match
  | some (trees, i) => some ([.node f trees], i)
  | none => none

/-- Trees put before the parts of a node. -/
def adopt (trees : List Tree) : List Tree → List Tree
  | [.node f parts] => [.node f (trees ++ parts)]
  | others => trees ++ others

/-- The trees that a pattern reads from a position on. `strict` looks for
mistakes. Each step into a pattern takes one from `depth`. -/
def match? (rules : Rule → Pattern Rule) (ts : Tokens) (depth : Nat) (strict : Bool) (p : Pattern Rule) (i : Nat) :
    Reading Match :=
  match depth with
  | 0 => return none
  | depth + 1 =>
    match p with
    | .keep c => return (← ts.getOf c i).map fun t => ([.leaf t], i + 1)
    | .skip c => return (← ts.getOf c i).map fun _ => ([], i + 1)
    | .rule r => do
      if r.isKept then
        match (← get)[(r, i)]? with
        | some found => return found
        | none =>
          let found ← match? rules ts depth strict (rules r) i
          modify fun kept => kept.insert (r, i) found
          return found
      else match? rules ts depth strict (rules r) i
    | .all [] => return some ([], i)
    | .all (p :: ps) => do
      match ← match? rules ts depth strict p i with
      | none => return none
      | some (trees, j) =>
        return (← match? rules ts depth strict (.all ps) j).map fun (more, k) => (trees ++ more, k)
    | .choice [] => return none
    | .choice (p :: ps) => do
      match ← match? rules ts depth strict p i with
      | some found => return some found
      | none => match? rules ts depth strict (.choice ps) i
    | .commit first second otherwise => do
      match ← match? rules ts depth strict first i with
      | none => match? rules ts depth strict otherwise i
      | some (trees, j) =>
        return (← match? rules ts depth strict second j).map fun (more, k) => (trees ++ more, k)
    | .many p => do
      match ← match? rules ts depth strict p i with
      | none => return some ([], i)
      | some (trees, j) =>
        return (← match? rules ts depth strict (.many p) j).map fun (more, k) => (trees ++ more, k)
    | .ahead p => return (← match? rules ts depth strict p i).map fun _ => ([], i)
    | .unlessAhead p =>
      return if (← match? rules ts depth strict p i).isSome then none else some ([], i)
    | .form f p => return wrap f (← match? rules ts depth strict p i)
    | .chain first step => do
      match ← match? rules ts depth strict first i with
      | none => return none
      | some (trees, j) => match? rules ts depth strict (.grow trees step) j
    | .grow trees step => do
      match ← match? rules ts depth strict step i with
      | none => return some (trees, i)
      | some (more, j) => match? rules ts depth strict (.grow (adopt trees more) step) j
    | .check objection p => do
      match ← match? rules ts depth strict p i with
      | none => return none
      | some (trees, j) =>
        match objection trees (ts.before j) with
        | some complaint => throw (.complaint complaint)
        | none => return some (trees, j)
    | .warn objection p => do
      match ← match? rules ts depth strict p i with
      | none => return none
      | some (trees, j) =>
        match objection trees (ts.before j) with
        | some complaint => throw (.complaint complaint)
        | none => return none
    | .ifStrict p => if strict then match? rules ts depth strict p i else return none
    | .lenient p => match? rules ts depth false p i

/-- How deep patterns can be nested for each token. -/
def depthOfToken : Nat := 2000

/-- The trees that a rule reads from the start of tokens. -/
def readTokens (rules : Rule → Pattern Rule) (start : Rule) (ts : Tokens) (strict : Bool) :
    Except Fault Match :=
  (match? rules ts (depthOfToken * (ts.tokens.size + 2)) strict (.rule start) 0).run' {}

/-- The expression that a rule makes of a text. -/
def readBy (rules : Rule → Pattern Rule) (start : Rule) (s : Text) : Except Fault Tree :=
  let ts := Tokens.of s
  match readTokens rules start ts false with
  | .error fault => .error (ts.report fault)
  | .ok (some ([tree], _)) => .ok tree
  | .ok _ =>
    match readTokens rules start ts true with
    | .error fault => .error (ts.report fault)
    | .ok _ => .error (ts.report (.complaint .invalid))

/-- Why an expression in a template is none, where templates are nested in
each other so deep at most. -/
def insertReason? (depth : Nat) (s : Text) : Option Text :=
  match depth with
  | 0 => none
  | depth + 1 =>
    match readBy (Rule.pattern (insertReason? depth)) .starExpressions s with
    | .error fault => some fault.insertMessage
    | .ok _ => none

/-- The expression that a text is. Templates in it are nested less deep
than it has characters. -/
def read (s : Text) : Except Fault Tree :=
  readBy (Rule.pattern (insertReason? s.length)) .whole s

end MetricAudit.Expression
