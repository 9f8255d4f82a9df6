/-
MetricAudit.Rendering.Renderer — what reports for people are made with.

Reports are not laid out by the program itself. It says what is to be
printed: sheets, which have a title and rows of cells below headings, and
lines. A renderer, of which there may be several, makes texts of them, in
a width and with or without colors.

The content of a cell or line is marked-up text, in which literal text
stands that has no tags, whatever is in it. A renderer may refuse to print
something. `Printed.hasUnmatched` describes the one thing that marked-up
text can have wrong for any renderer: a closing tag that closes nothing.
-/
import MetricAudit.Rendering.Tag

namespace MetricAudit.Rendering

/-- A piece of content. -/
inductive Segment where
  | markup (s : Text)
  /-- Text that stands for itself. -/
  | literal (s : Text)
  deriving DecidableEq, Repr

/-- The content of a title, a cell or a line. -/
abbrev Content := List Segment

/-- What the tags of a segment hold. -/
def Segment.tags : Segment → List Text
  | .markup s => Markup.tags s
  | .literal _ => []

/-- Whether a closing tag in some content has no matching open tag before
it. Tags in literal text are none. -/
def Content.hasUnmatched (canonical : Text → Text) (c : Content) : Bool :=
  Markup.hasUnmatched canonical [] (c.flatMap Segment.tags)

/-- A titled sheet. Every row has as many cells as there are headings; the
texts of the last column are folded, those of the others stay on one
line. -/
structure Sheet where
  title : Content
  headings : List Text
  rows : List (List Content)
  deriving DecidableEq, Repr

/-- What can be printed. -/
inductive Printed where
  | sheet (s : Sheet)
  | line (c : Content)
  | blank
  deriving DecidableEq, Repr

namespace Printed

/-- The contents that are looked at to print something. -/
def contents : Printed → List Content
  | .sheet s => s.title :: s.rows.flatten
  | .line c => [c]
  | .blank => []

/-- Whether a closing tag somewhere has no matching open tag. -/
def hasUnmatched (canonical : Text → Text) (p : Printed) : Bool :=
  p.contents.any (Content.hasUnmatched canonical)

end Printed

/-- Why something is not printed: the name of the error, and what it
says. -/
structure Refusal where
  kind : Text
  message : Text
  deriving DecidableEq, Repr

/-- What makes texts of what is printed. -/
structure Renderer where
  /-- The form of a style that all its names share. -/
  canonical : Text → Text
  /-- The text of something printed in a width, with or without colors. -/
  print : (color : Bool) → (width : Nat) → Printed → Except Refusal Text

end MetricAudit.Rendering
