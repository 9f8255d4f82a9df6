/-
MetricAudit.Rendering.Tag — the tags of marked-up text.

A tag is a text in square brackets that starts with a lowercase ASCII
letter, `#`, `/` or `@` and holds no other bracket `[`. It opens a style,
or closes one: after a slash stands the style to close, and nothing for
the last one opened. An equals sign sets off what belongs to a style. Of
the backslashes before a tag every two stand for one; one left over makes
the tag plain text.

`hasUnmatched` tells whether a closing tag among some tags has no open
one that it closes.
-/
import MetricAudit.Text.Blank

namespace MetricAudit.Rendering.Markup

/-- A character that can start a tag. -/
def startsTag (c : Char) : Bool :=
  ('a' ≤ c && c ≤ 'z') || c == '#' || c == '/' || c == '@'

/-- What a tag holds, of a text after an opening bracket. -/
def tag? : Text → Option Text
  | [] => none
  | c :: cs =>
    let inner := cs.takeWhile fun d => d != ']' && d != '['
    if startsTag c && (cs.drop inner.length).head? = some ']' then some (c :: inner)
    else none

/-- So many backslashes. -/
def backslashes (n : Nat) : Text := List.replicate n '\\'

/-! ## Pieces -/

/-- A part of marked-up text: plain text, or what the tag at a position
holds. -/
inductive Piece where
  | plain (s : Text)
  | tag (content : Text) (position : Nat)
  deriving DecidableEq, Repr

/-- A bracket that opens no tag, after `n` backslashes, of which it loses
one. -/
def bracket (n : Nat) : Text := backslashes (n - 1) ++ ['[']

/-- The parts of marked-up text from a position on. The next `skip`
characters belong to a tag, and `n` backslashes have been passed. -/
def pieces (position skip n : Nat) : Text → List Piece
  | [] => [.plain (backslashes n)]
  | c :: cs =>
    if 0 < skip then pieces (position + 1) (skip - 1) 0 cs
    else if c = '\\' then pieces (position + 1) 0 (n + 1) cs
    else if c = '[' then
      match tag? cs with
      | some content =>
        if n % 2 = 0 then
          .plain (backslashes (n / 2)) :: .tag content position
            :: pieces (position + 1) (content.length + 1) 0 cs
        else
          .plain (backslashes (n / 2) ++ '[' :: content ++ [']'])
            :: pieces (position + 1) (content.length + 1) 0 cs
      | none => .plain (bracket n) :: pieces (position + 1) 0 0 cs
    else .plain (backslashes n ++ [c]) :: pieces (position + 1) 0 0 cs

/-- The text that a part shows. -/
def Piece.text : Piece → Text
  | .plain s => s
  | .tag _ _ => []

/-- What a part holds that is a tag. -/
def Piece.content? : Piece → Option Text
  | .plain _ => none
  | .tag content _ => some content

/-- What the tags of marked-up text hold. -/
def tags (s : Text) : List Text := (pieces 0 0 0 s).filterMap Piece.content?

/-! ## Matching -/

/-- The name in a tag, with the slash of a closing one. -/
def tagName (content : Text) : Text := content.takeWhile (· != '=')

/-- Whether one of some tags closes what is not open. Of the styles that
are open the last one comes first; `canonical` gives the form of a style
that all its names share. -/
def hasUnmatched (canonical : Text → Text) (opened : List Text) : List Text → Bool
  | [] => false
  | content :: rest =>
    match tagName content with
    | '/' :: name =>
      if (Text.strip name).isEmpty then
        match opened with
        | [] => true
        | _ :: opened => hasUnmatched canonical opened rest
      else
        let style := canonical (Text.strip name)
        !opened.contains style || hasUnmatched canonical (opened.erase style) rest
    | name => hasUnmatched canonical (canonical name :: opened) rest

end MetricAudit.Rendering.Markup
