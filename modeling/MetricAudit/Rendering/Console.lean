/-
MetricAudit.Rendering.Console — the renderer of the program.

The console prints plain text, without colors. A sheet becomes a grid and
a line is wrapped; every line is ended. Where a width has no room for a
character in the columns of a sheet, its cells are not looked at.

The console takes every character to be one cell wide, and it knows no
names of pictures between colons. Which reports can be printed does not
depend on either: what is said of them holds of any renderer.
-/
import MetricAudit.Rendering.Grid
import MetricAudit.Rendering.Markup
import MetricAudit.Rendering.Renderer

namespace MetricAudit.Rendering.Console

/-- A piece of content as marked-up text. -/
def source : Segment → Text
  | .markup s => s
  | .literal s => Markup.escape s

/-- What some content shows. -/
def render (c : Content) : Except Markup.Fault Markup.Marked :=
  Markup.render (c.flatMap source)

/-- The lines of a text in a width; where there is none, nothing is
shown. -/
def textLines (width : Nat) (s : Text) : List Text :=
  if width = 0 then [] else Wrap.lines width s

/-- The lines of some content. -/
def lineLines (width : Nat) (c : Content) : Except Markup.Fault (List Text) := do
  let shown ← render c
  match shown.fault? shown.text.length with
  | some fault => throw fault
  | none => return textLines width shown.text

/-- The rows of a sheet that is laid out in a width. -/
def rows (width : Nat) (s : Sheet) : Except Markup.Fault (List (List Markup.Marked)) :=
  if Grid.showsText s.headings.length width then s.rows.mapM (·.mapM render)
  else .ok (s.rows.map fun row => row.map fun _ => {})

/-- The fault in a style of a row, whose cells have so much room each. The
last one is folded, and so it is shown in full. -/
def styleFault? : List Nat → List Markup.Marked → Option Markup.Fault
  | [room], [cell] => if room = 0 then none else cell.fault? cell.text.length
  | room :: rooms, cell :: cells =>
    (if room = 0 then none else cell.fault? room) <|> styleFault? rooms cells
  | _, _ => none

/-- The lines of a sheet. -/
def sheetLines (width : Nat) (s : Sheet) : Except Markup.Fault (List Text) := do
  let rows ← rows width s
  let title ← render s.title
  let grid : Grid :=
    { title := title.text, headings := s.headings, rows := rows.map (·.map (·.text)) }
  match rows.findSome? (styleFault? ((grid.widths width).map Grid.cellRoom)) with
  | some fault => throw fault
  | none => return grid.lines width

/-- The lines of what is printed. -/
def lines (width : Nat) : Printed → Except Markup.Fault (List Text)
  | .sheet s => sheetLines width s
  | .line c => lineLines width c
  | .blank => .ok [[]]

/-- The refusal for a fault. -/
def refusal (fault : Markup.Fault) : Refusal :=
  let kind : Text :=
    match fault with
    | .color _ => "ValueError"
    | _ => "MarkupError"
  ⟨kind, fault.message⟩

/-- The console. -/
def renderer : Renderer where
  canonical name := (Style.canonical name).toOption.getD name
  print _ width p :=
    match lines width p with
    | .ok lines => .ok (lines.flatMap (· ++ ['\n']))
    | .error fault => .error (refusal fault)

end MetricAudit.Rendering.Console
