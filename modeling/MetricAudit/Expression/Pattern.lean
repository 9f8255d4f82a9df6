/-
MetricAudit.Expression.Pattern — patterns of tokens.

A pattern says which tokens may come next and which trees they make. Of
several ways the first that goes is taken (`choice`), and a pattern can
look ahead without taking anything. Patterns refer to rules by name; what
the rules are is for the grammar to say.

Some ways are there for mistakes only: `warn` turns what it reads into a
complaint, and `ifStrict` holds ways that are tried only where mistakes
are looked for.
-/
import MetricAudit.Expression.Complaint
import MetricAudit.Expression.Tree

namespace MetricAudit.Expression

/-- A set of tokens. -/
inductive TokenClass where
  | name
  | number
  | quote
  | finish
  | sign (s : String)
  | keyword (s : String)
  /-- A name that is a keyword elsewhere, or that starts one. -/
  | softKeyword

namespace TokenClass

/-- The names that are keywords elsewhere. -/
def softKeywords : List String := ["_", "case", "match"]

/-- Whether a class holds a token. -/
def holds (t : Token) : TokenClass → Bool
  | .name => t.kind == .name
  | .number => t.kind == .number
  | .quote => t.kind == .quote
  | .finish => t.kind == .finish
  | .sign s => t.kind == .sign && t.text == s.toList
  | .keyword s => t.kind == .keyword && t.text == s.toList
  | .softKeyword => t.kind == .name && softKeywords.any (t.text.isPrefixOf ·.toList)

end TokenClass

/-- A complaint about trees that have been read, where there is one. The
token is the last that was read. -/
abbrev Objection := List Tree → Token → Option Complaint

/-- A pattern of tokens, over rules. -/
inductive Pattern (R : Type) where
  /-- A token, which is a leaf of the tree. -/
  | keep (c : TokenClass)
  /-- A token that leaves nothing in the tree. -/
  | skip (c : TokenClass)
  | rule (r : R)
  | all (ps : List (Pattern R))
  | choice (ps : List (Pattern R))
  /-- After the first pattern the second has to follow; the third is for
  where the first does not go. -/
  | commit (first second otherwise : Pattern R)
  | many (p : Pattern R)
  /-- What comes next, nothing taken. -/
  | ahead (p : Pattern R)
  /-- What must not come next. -/
  | unlessAhead (p : Pattern R)
  /-- The trees that are read make one. -/
  | form (f : Form) (p : Pattern R)
  /-- A pattern, and any number of others that each take the tree before
  them as their first part. -/
  | chain (first step : Pattern R)
  /-- More such patterns after a tree. -/
  | grow (tree : List Tree) (step : Pattern R)
  /-- A pattern that goes only without a complaint. -/
  | check (objection : Objection) (p : Pattern R)
  /-- A mistake: the pattern, if it goes, makes a complaint; without one
  it does not go. -/
  | warn (objection : Objection) (p : Pattern R)
  /-- A way that is tried only where mistakes are looked for. -/
  | ifStrict (p : Pattern R)
  /-- A pattern in which no mistakes are looked for. -/
  | lenient (p : Pattern R)

namespace Pattern

variable {R : Type}

/-- A sign, not kept. -/
def sign (s : String) : Pattern R := .skip (.sign s)

/-- A keyword, not kept. -/
def keyword (s : String) : Pattern R := .skip (.keyword s)

/-- A sign that is an operator. -/
def operator (s : String) : Pattern R := .keep (.sign s)

/-- A name. -/
def name : Pattern R := .keep .name

/-- A pattern, or nothing. -/
def optional (p : Pattern R) : Pattern R := .choice [p, .all []]

/-- A pattern, once or more. -/
def repeated (p : Pattern R) : Pattern R := .all [p, .many p]

/-- A pattern, once or more, with commas between. -/
def separated (p : Pattern R) : Pattern R := .all [p, .many (.all [sign ",", p])]

/-- A mistake of one kind. -/
def mistake (c : Complaint) (p : Pattern R) : Pattern R :=
  .ifStrict (.warn (fun _ _ => some c) p)

/-- A mistake whose kind depends on what is read. -/
def suspect (objection : Objection) (p : Pattern R) : Pattern R :=
  .ifStrict (.warn objection p)

end Pattern
end MetricAudit.Expression
