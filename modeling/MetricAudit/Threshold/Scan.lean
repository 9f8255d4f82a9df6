/-
MetricAudit.Threshold.Scan — a threshold text cut into its pieces.

An entered threshold is cut into a leading sign, a body and a trailing
unit, without judging the body. The sign is a comparison or one of two
misspellings of a comparison; the longest is taken, so `>=` is never read
as `>`. Of the units too the longest is taken, so `ms` is never read as
`s`. The body is what is left, without any blank.
-/
import MetricAudit.Threshold.Basic
import MetricAudit.Text.Blank

namespace MetricAudit.Threshold

/-- Comparisons written the wrong way round. -/
inductive Typo where
  | atLeast
  | atMost
  deriving DecidableEq, Repr

namespace Typo

/-- The sign as it is written by mistake. -/
def sign : Typo → Text
  | .atLeast => "=>"
  | .atMost => "=<"

/-- The comparison that is most likely meant. -/
def meant : Typo → Operator
  | .atLeast => .atLeast
  | .atMost => .atMost

def all : List Typo := [.atLeast, .atMost]

end Typo

/-- What a threshold text starts with. -/
inductive Lead where
  | bare
  | typo (typo : Typo)
  | operator (operator : Operator)
  deriving DecidableEq, Repr

namespace Lead

/-- The sign of a lead. -/
def sign : Lead → Text
  | .bare => []
  | .typo t => t.sign
  | .operator o => o.sign

/-- All leads in the order they are tried: a sign before the signs it
starts with, no sign at all last. -/
def all : List Lead :=
  Typo.all.map .typo ++ Operator.all.map .operator ++ [.bare]

/-- The comparison, where there is one. -/
def operator? : Lead → Option Operator
  | .operator o => some o
  | _ => none

/-- The misspelling, where there is one. -/
def typo? : Lead → Option Typo
  | .typo t => some t
  | _ => none

/-- The lead of a text and what follows it. -/
def take (s : Text) : Lead × Text :=
  (all.findSome? fun lead => (lead.sign.isPrefixOf? s).map (lead, ·)).getD (.bare, s)

end Lead

/-- The unit at the end of a text, and what stands before it. -/
def takeUnit (s : Text) : Option MeasureUnit × Text :=
  match MeasureUnit.all.findSome? fun u => (u.token.isSuffixOf? s).map (u, ·) with
  | some (unit, rest) => (some unit, Text.stripEnd rest)
  | none => (none, s)

/-- The pieces of a threshold text. -/
structure Scan where
  /-- The text without the blanks around it. -/
  text : Text
  lead : Lead
  /-- What follows the lead, without the blanks around it. -/
  fragment : Text
  unit : Option MeasureUnit
  /-- The fragment without the unit and without any blank. -/
  body : Text
  deriving DecidableEq, Repr

/-- Cut a threshold text into its pieces. -/
def scan (entry : Text) : Scan :=
  let text := Text.strip entry
  let (lead, rest) := Lead.take text
  let fragment := Text.strip rest
  let (unit, body) := takeUnit fragment
  ⟨text, lead, fragment, unit, Text.squeeze body⟩

/-- Whether the body is meant as a ratio. -/
def Scan.hasSlash (s : Scan) : Bool := s.body.contains '/'

end MetricAudit.Threshold
