/-
MetricAudit.Rendering.Grid — texts in columns.

A grid has a title, a row of headings, and rows of cells. It is laid out
in a given width: an edge of one space on either side, one space between
columns, and in each cell a space on either side of its text. A column is
as wide as its longest text asks; where that is too much in all, the last
column gives way, and then all of them; what is left over is spread over
the columns by their widths. Texts of the last column are wrapped, other
ones that are too long end in an ellipsis.

The edges and the spaces between the columns take their place also where
the width has no room for them; such lines are cut off at the width.
-/
import MetricAudit.Number.Binary64
import MetricAudit.Rendering.Wrap

namespace MetricAudit.Rendering

/-- A grid of texts. Every row has as many cells as there are
headings. -/
structure Grid where
  title : Text
  headings : List Text
  rows : List (List Text)
  deriving DecidableEq, Repr

namespace Grid

/-- So many spaces. -/
def spaces (n : Nat) : Text := List.replicate n ' '

/-! ## Widths -/

/-- The greatest of some numbers. -/
def greatest (ns : List Nat) : Nat := ns.foldl max 0

/-- Some numbers together. -/
def total : List Nat → Nat
  | [] => 0
  | n :: ns => n + total ns

/-- How wide a column with these cells asks to be, of so much room. -/
def natural (room : Nat) (cells : List Text) : Nat :=
  max 1 (min room (greatest (cells.map List.length) + 2))

/-- Share a loss out evenly among the columns that have a width, `count`
of them. -/
def reduce (loss count : Nat) : List Nat → List Nat
  | [] => []
  | width :: widths =>
    if width = 0 then width :: reduce loss count widths
    else
      let share := min width (Binary64.roundDiv loss count)
      (width - share) :: reduce (loss - share) (count - 1) widths

/-- Share a gain out among columns by their widths, each share rounded
up. -/
def spread (gain : Nat) : List Nat → List Nat
  | [] => []
  | width :: widths =>
    let ratio := total (width :: widths)
    let share := (width * gain + ratio - 1) / ratio
    (width + share) :: spread (gain - share) widths

/-- Take a loss from the last column, as far as it goes. -/
def narrowLast (loss : Nat) : List Nat → List Nat
  | [] => []
  | [width] => [width - loss]
  | width :: widths => width :: narrowLast loss widths

/-- The widths of columns that share so much room, from those they ask
for. -/
def fit (room : Nat) (widths : List Nat) : List Nat :=
  if total widths < room then spread (room - total widths) widths
  else
    let narrowed := narrowLast (total widths - room) widths
    if room < total narrowed then
      reduce (total narrowed - room) (narrowed.filter (· ≠ 0)).length narrowed
    else narrowed

/-- The cells of the columns, headings included. -/
def columns (g : Grid) : List (List Text) :=
  g.headings.zipIdx.map fun (heading, i) => heading :: g.rows.map fun row => row.getD i []

/-- The room that so many columns share in a width. -/
def room (columns width : Nat) : Nat := width - (columns + 1)

/-- Whether so many columns have room for a character in a width. Where
they have none, no text is looked at. -/
def showsText (columns width : Nat) : Bool := 3 ≤ room columns width

/-- The widths of the columns of a grid that is laid out in a width. -/
def widths (g : Grid) (width : Nat) : List Nat :=
  let room := room g.headings.length width
  fit room (g.columns.map (natural room))

/-! ## Lines -/

/-- A text on one line of at most so many characters. -/
def truncate (width : Nat) (s : Text) : Text :=
  if s.length ≤ width then s else s.take (width - 1) ++ ['…']

/-- A line in its cell. -/
def pad (width : Nat) (line : Text) : Text :=
  ' ' :: line ++ spaces (width - line.length) ++ [' ']

/-- The room for text in a cell of a column with this width. -/
def cellRoom (width : Nat) : Nat := width - 2

/-- The lines of a cell; one without room for a character has none. -/
def cellLines (wraps : Bool) (width : Nat) (s : Text) : List Text :=
  let room := cellRoom width
  if room = 0 then []
  else (if wraps then Wrap.lines room s else [truncate room s]).map (pad room)

/-- The lines of the cells of a row, each with the width of its
column. -/
def blocks : List Nat → List Text → List (Nat × List Text)
  | [width], [cell] => [(width, cellLines true width cell)]
  | width :: widths, cell :: cells =>
    (width, cellLines false width cell) :: blocks widths cells
  | _, _ => []

/-- How the cells of a row stand against each other. -/
inductive Alignment where
  | top
  | bottom
  deriving DecidableEq, Repr

/-- The lines of a cell made up to a number of lines. -/
def heighten (alignment : Alignment) (height : Nat) (block : Nat × List Text) : List Text :=
  let missing := List.replicate (height - block.2.length) (spaces block.1)
  match alignment with
  | .top => block.2 ++ missing
  | .bottom => missing ++ block.2

/-- A line of cells between the edges of the grid. -/
def edged (cells : List Text) : Text := ' ' :: Text.join " " cells ++ [' ']

/-- The lines of a row. -/
def rowLines (alignment : Alignment) (widths : List Nat) (cells : List Text) : List Text :=
  let blocks := blocks widths cells
  let height := max 1 (greatest (blocks.map fun block => block.2.length))
  let cells := blocks.map (heighten alignment height)
  (List.range height).map fun i => edged (cells.map fun lines => lines.getD i [])

/-- A line in the middle of a width. -/
def centred (width : Nat) (line : Text) : Text :=
  let left := (width - line.length) / 2
  spaces left ++ line ++ spaces (width - line.length - left)

/-- The lines of a title. -/
def titleLines (width : Nat) (title : Text) : List Text :=
  (Wrap.lines width title).map fun line => centred width (Text.stripEnd line)

/-- The lines of a grid that is laid out in a width, cut off at it. -/
def lines (g : Grid) (width : Nat) : List Text :=
  let widths := g.widths width
  let inner := total widths + (widths.length - 1)
  let blank := spaces (inner + 2)
  let rule : Text := ' ' :: List.replicate inner '━' ++ [' ']
  let lines := titleLines (inner + 2) g.title ++ blank :: rowLines .bottom widths g.headings
    ++ rule :: g.rows.flatMap (rowLines .top widths) ++ [blank]
  lines.map (·.take width)

end Grid
end MetricAudit.Rendering
