/-
MetricAudit.Rendering.Markup — marked-up text on a console.

A tag that starts with `@` stands for a handler; what an equals sign sets
off in it belongs to the handler.

`render` gives the plain text of marked-up text with the stretches that
are in a style, or what is wrong with its tags. `escape` marks a text up
so that it has no tags. A style is looked into only where its stretch is
shown: `Marked.fault?`.
-/
import MetricAudit.Rendering.Handler
import MetricAudit.Rendering.Style
import MetricAudit.Rendering.Tag

namespace MetricAudit.Rendering.Markup

/-! ## Escaping -/

/-- Put a backslash before every tag of a text, and double those that
stand before it; `n` backslashes have been passed. -/
def escapeTags (n : Nat) : Text → Text
  | [] => backslashes n
  | c :: cs =>
    if c = '\\' then escapeTags (n + 1) cs
    else if c = '[' && (tag? cs).isSome then
      backslashes (2 * n + 1) ++ c :: escapeTags 0 cs
    else backslashes n ++ c :: escapeTags 0 cs

/-- Whether a text ends in a single backslash. -/
def endsInBackslash (s : Text) : Bool :=
  (s.reverse.takeWhile (· == '\\')).length == 1

/-- Mark a text up to stand for itself. A single backslash at its end is
doubled, lest it apply to what follows. -/
def escape (s : Text) : Text :=
  let escaped := escapeTags 0 s
  if endsInBackslash escaped then escaped ++ ['\\'] else escaped

/-! ## Rendering -/

/-- What is wrong with the tags of marked-up text. -/
inductive Fault where
  /-- A closing tag for a style that is not open. -/
  | unopened (content : Text) (position : Nat)
  /-- A closing tag for the last style, where none is open. -/
  | nothingOpen (position : Nat)
  /-- A color that cannot be read. -/
  | color (fault : ColorName.Fault)
  /-- A handler whose arguments cannot be used. -/
  | handler (fault : Handler.Fault)
  deriving DecidableEq, Repr

def Fault.message : Fault → Text
  | .unopened content position =>
    "closing tag '[" ++ content ++ "]' at position " ++ Text.ofNat position
      ++ " doesn't match any open tag"
  | .nothingOpen position =>
    "closing tag '[/]' at position " ++ Text.ofNat position ++ " has nothing to close"
  | .color fault => fault.message
  | .handler fault => fault.message

/-- An open tag: how much text stands before it, the style it names, and
what stands after an equals sign. -/
structure Opening where
  start : Nat
  name : Text
  written : Option Text
  deriving DecidableEq, Repr

/-- The description of the style of a tag. -/
def Opening.style (o : Opening) : Text :=
  match o.written with
  | none => o.name
  | some written => o.name ++ ' ' :: written

/-- A stretch of text in a style, by the text before it. -/
structure Stretch where
  start : Nat
  style : Text
  deriving DecidableEq, Repr

/-- The stretch that a tag opens. -/
def Opening.stretch (o : Opening) : Stretch := ⟨o.start, o.style⟩

/-- Where the tags of a text have led to: the length of the text, the open
tags, the last one first, and the stretches that are closed, likewise. -/
structure Progress where
  length : Nat := 0
  opened : List Opening := []
  closed : List Stretch := []
  deriving DecidableEq, Repr

/-- The form of a style that all its descriptions share. -/
def canonical (name : Text) : Except Fault Text :=
  match Style.canonical name with
  | .ok style => .ok style
  | .error fault => .error (.color fault)

/-- Close a tag, the one of its kind that was opened last. -/
def close (p : Progress) (o : Opening) : Except Fault Progress :=
  let closed : Progress :=
    { p with opened := p.opened.erase o, closed := o.stretch :: p.closed }
  match o.name, o.written with
  | '@' :: _, some written =>
    if written.isEmpty then .ok closed
    else
      match Handler.check written with
      | .ok () => .ok closed
      | .error fault => .error (.handler fault)
  | _, _ => .ok closed

/-- Take over a tag with this content. -/
def step (p : Progress) (content : Text) (position : Nat) : Except Fault Progress :=
  let name := tagName content
  let written := if name.length < content.length then some (content.drop (name.length + 1))
    else none
  match name with
  | '/' :: name =>
    if (Text.strip name).isEmpty then
      match p.opened with
      | [] => .error (.nothingOpen position)
      | o :: _ => close p o
    else do
      let style ← canonical (Text.strip name)
      match p.opened.find? (·.name == style) with
      | none => .error (.unopened content position)
      | some o => close p o
  | name => do
    let style ← canonical name
    return { p with opened := ⟨p.length, style, written⟩ :: p.opened }

/-- Take over parts. -/
def advance (p : Progress) : List Piece → Except Fault Progress
  | [] => .ok p
  | .plain s :: rest => advance { p with length := p.length + s.length } rest
  | .tag content position :: rest => do advance (← step p content position) rest

/-- A text with the stretches of it that are in a style, by where they
start. -/
structure Marked where
  text : Text := []
  stretches : List Stretch := []
  deriving DecidableEq, Repr

/-- The text that marked-up text shows, with its stretches. Tags that are
open at the end reach to the end. -/
def render (markup : Text) : Except Fault Marked := do
  let pieces := pieces 0 0 0 markup
  let p ← advance {} pieces
  let stretches := p.opened.reverse.map (·.stretch) ++ p.closed
  return ⟨pieces.flatMap (·.text), stretches.mergeSort fun a b => Nat.ble a.start b.start⟩

/-- The first fault in a style of a text that is shown in so much room. A
text that is too long loses the stretches that start where it is cut
off. -/
def Marked.fault? (m : Marked) (room : Nat) : Option Fault :=
  let shown := m.stretches.filter fun s => m.text.length ≤ room || s.start < room
  (shown.findSome? fun s => Style.fault? s.style).map .color

end MetricAudit.Rendering.Markup
