/-
MetricAudit.Rendering.Style — styles of marked-up text.

A style switches attributes on and off, and sets a color, a background
and a link. It is written as words: the name of an attribute (some have a
short one) or of a color, `not` before an attribute, `on` before a
background, `link` before an address. Of words that set the same thing
the last one counts.

`canonical` is the one form of all descriptions of a style; a text that
describes no style stands for itself, in lower case. A text with a color
that cannot be read (`ColorName.Fault`) has no such form.
-/
import MetricAudit.Rendering.ColorName
import MetricAudit.Text.LowerCase

namespace MetricAudit.Rendering

/-- What can be switched on and off. -/
inductive Attribute where
  | bold
  | dim
  | italic
  | underline
  | blink
  | fastBlink
  | reverse
  | conceal
  | strike
  | doubleUnderline
  | frame
  | encircle
  | overline
  deriving DecidableEq, Repr

namespace Attribute

/-- The attributes, in the order in which a style names them. -/
def all : List Attribute :=
  [.bold, .dim, .italic, .underline, .blink, .fastBlink, .reverse, .conceal, .strike,
   .doubleUnderline, .frame, .encircle, .overline]

def name : Attribute → Text
  | .bold => "bold"
  | .dim => "dim"
  | .italic => "italic"
  | .underline => "underline"
  | .blink => "blink"
  | .fastBlink => "blink2"
  | .reverse => "reverse"
  | .conceal => "conceal"
  | .strike => "strike"
  | .doubleUnderline => "underline2"
  | .frame => "frame"
  | .encircle => "encircle"
  | .overline => "overline"

/-- The short name of an attribute, where it has one. -/
def shortName? : Attribute → Option Text
  | .bold => some "b"
  | .dim => some "d"
  | .italic => some "i"
  | .underline => some "u"
  | .reverse => some "r"
  | .conceal => some "c"
  | .strike => some "s"
  | .doubleUnderline => some "uu"
  | .overline => some "o"
  | _ => none

/-- The attribute that a word names. -/
def ofWord? (word : Text) : Option Attribute :=
  all.find? fun a => a.name = word || a.shortName? = some word

end Attribute

/-- A style: the attributes it sets, the last setting of one first. -/
structure Style where
  attributes : List (Attribute × Bool) := []
  color : Option Text := none
  background : Option Text := none
  link : Option Text := none
  deriving DecidableEq, Repr

namespace Style

/-- What the next words of a description come to. -/
inductive Reading where
  | style (s : Style)
  | noStyle
  | unreadable (fault : ColorName.Fault)

/-- Set a color where a word names one. -/
def ifNamed (word : Text) (style : Style) : Reading :=
  match ColorName.isNamed word with
  | .ok true => .style style
  | .ok false => .noStyle
  | .error fault => .unreadable fault

/-- Take over a word that stands alone. -/
def readWord (style : Style) (word : Text) : Reading :=
  match Attribute.ofWord? word with
  | some a => .style { style with attributes := (a, true) :: style.attributes }
  | none => ifNamed word { style with color := some word }

/-- Take over `not`, `on` or `link` with the word after it, which a
`link` keeps as it is written. -/
def readPair (style : Style) (lead word : Text) : Reading :=
  if lead = "not".toList then
    match Attribute.ofWord? word with
    | some a => .style { style with attributes := (a, false) :: style.attributes }
    | none => .noStyle
  else if lead = "on".toList then
    ifNamed (Text.lower word) { style with background := some (Text.lower word) }
  else .style { style with link := some word }

/-- Whether a word needs another one after it. -/
def isLead (word : Text) : Bool :=
  word = "not".toList || word = "on".toList || word = "link".toList

/-- Take over words. -/
def read (style : Style) : List Text → Reading
  | [] => .style style
  | word :: words =>
    if isLead (Text.lower word) then
      match words with
      | [] => .noStyle
      | next :: words =>
        match readPair style (Text.lower word) next with
        | .style style => read style words
        | reading => reading
    else
      match readWord style (Text.lower word) with
      | .style style => read style words
      | reading => reading

/-- The style that a text describes. -/
def parse (s : Text) : Reading :=
  if Text.strip s = "none".toList then .style {} else read {} (Text.words s)

/-- The color that keeps a description from being read. -/
def fault? (s : Text) : Option ColorName.Fault :=
  match parse s with
  | .unreadable fault => some fault
  | _ => none

/-- The word for the setting of an attribute, where a style has one. -/
def attributeWord? (style : Style) (a : Attribute) : Option Text :=
  (style.attributes.find? fun setting => setting.1 = a).map fun (_, on) =>
    if on then a.name else "not " ++ a.name

/-- The description of a style, its parts in a fixed order. -/
def text (style : Style) : Text :=
  let background : Option Text := style.background.map ("on " ++ ·)
  let link : Option Text := style.link.map ("link " ++ ·)
  let parts : List Text := Attribute.all.filterMap style.attributeWord?
    ++ style.color.toList ++ background.toList ++ link.toList
  match parts with
  | [] => "none"
  | _ => Text.join " " parts

/-- The form that all descriptions of a style share. -/
def canonical (s : Text) : Except ColorName.Fault Text :=
  match parse s with
  | .style style => .ok style.text
  | .noStyle => .ok (Text.lower (Text.strip s))
  | .unreadable fault => .error fault

end Style
end MetricAudit.Rendering
