/-
MetricAudit.Toml.Strings — the strings of TOML.

Basic strings stand between double quotation marks and know escapes,
literal strings stand between apostrophes and know none. Three marks open
a string of several lines: a newline directly after them is dropped, and
one or two marks may stand before the three that close it. In a basic
string of several lines a backslash at the end of a line drops all white
space up to the next other character.
-/
import MetricAudit.Text.DecimalDigit
import MetricAudit.Text.Hexadecimal
import MetricAudit.Toml.Fault

namespace MetricAudit.Toml

/-- A space or a tab. -/
def isSpace (c : Char) : Bool := c == ' ' || c == '\t'

/-- A text without the spaces and tabs at its front. -/
def skipSpace (s : Text) : Text := s.dropWhile isSpace

/-- A text without the spaces, tabs and newlines at its front. -/
def skipLines (s : Text) : Text := s.dropWhile fun c => isSpace c || c == '\n'

/-- A control character of ASCII other than the tab. -/
def isControl (c : Char) : Bool := (c.toNat < 0x20 && c != '\t') || c.toNat = 0x7f

/-- A character that a string may not hold. -/
def isIllegal (multiline : Bool) (c : Char) : Bool :=
  isControl c && !(multiline && c == '\n')

/-! ## Basic strings -/

/-- The character that a backslash and a letter stand for. -/
def escaped? : Char → Option Char
  | 'b' => some '\x08'
  | 't' => some '\t'
  | 'n' => some '\n'
  | 'f' => some '\x0c'
  | 'r' => some '\r'
  | '"' => some '"'
  | '\\' => some '\\'
  | _ => none

/-- The number that digits in a base up to sixteen write. -/
def numberIn (base : Nat) (digits : Text) : Nat :=
  digits.foldl (fun n c => base * n + (Text.hexDigit? c).getD 0) 0

/-- The character whose code point the next `count` hexadecimal digits
write. -/
def readCode (count : Nat) (s : Text) : Except Fault Char :=
  let digits := s.take count
  if digits.length = count ∧ digits.all (fun c => (Text.hexDigit? c).isSome) then
    let n := numberIn 16 digits
    if n.isValidChar then .ok (Char.ofNat n) else stop .notAScalar (s.drop count)
  else stop .invalidHex s

/-- The text that a backslash stands for together with the text `s` after
it, and how many characters of that it takes. -/
def readEscape (multiline : Bool) (s : Text) : Except Fault (Text × Nat) :=
  match s with
  | [] => stop .unescapedBackslash []
  | c :: t =>
    if multiline && (isSpace c || c == '\n') then
      match skipSpace s with
      | [] => .ok ([], s.length)
      | '\n' :: u => .ok ([], s.length - (skipLines u).length)
      | u => stop .unescapedBackslash u
    else if c = 'u' then (fun d => ([d], 5)) <$> readCode 4 t
    else if c = 'U' then (fun d => ([d], 9)) <$> readCode 8 t
    else
      match escaped? c with
      | some d => .ok ([d], 1)
      | none => stop .unescapedBackslash t

/-- Read a basic string after its opening marks. The first characters,
`skip` of them, belong to an escape that is already read. -/
def readBasic (multiline : Bool) : Nat → Text → Except Fault (Text × Text)
  | _, [] => stop .unterminatedString []
  | skip + 1, _ :: s => readBasic multiline skip s
  | 0, c :: s =>
    if c = '"' then
      if !multiline then .ok ([], s)
      else
        match (['"', '"'] : Text).isPrefixOf? s with
        | some rest => .ok ([], rest)
        | none => do
          let (string, rest) ← readBasic multiline 0 s
          return ('"' :: string, rest)
    else if c = '\\' then do
      let (piece, taken) ← readEscape multiline s
      let (string, rest) ← readBasic multiline taken s
      return (piece ++ string, rest)
    else if isIllegal multiline c then stop (.illegalCharacter c) (c :: s)
    else do
      let (string, rest) ← readBasic multiline 0 s
      return (c :: string, rest)

/-! ## Literal strings -/

/-- What stands before the first `mark` in a text, and what after it. -/
def cutAt? (mark : Text) : Text → Option (Text × Text)
  | [] => none
  | c :: s =>
    match mark.isPrefixOf? (c :: s) with
    | some rest => some ([], rest)
    | none => (cutAt? mark s).map fun (before, rest) => (c :: before, rest)

/-- Read a literal string after its opening mark. -/
def readLiteral (multiline : Bool) (s : Text) : Except Fault (Text × Text) :=
  let mark : Text := if multiline then "'''" else "'"
  match cutAt? mark s with
  | none => stop (.markExpected mark) []
  | some (string, rest) =>
    match string.find? (isIllegal multiline) with
    | some c =>
      stop (.invalidCharacter c) (s.dropWhile fun c => !isIllegal multiline c)
    | none => .ok (string, rest)

/-! ## All strings -/

/-- The one or two marks that belong to a string of several lines though
they stand after three. -/
def takeExtraMarks (mark : Char) : Text → Text × Text
  | c :: d :: s =>
    if c = mark then if d = mark then ([c, d], s) else ([c], d :: s) else ([], c :: d :: s)
  | [c] => if c = mark then ([c], []) else ([], [c])
  | [] => ([], [])

/-- Read the rest of a string of several lines with a reader for its
kind. -/
def readMultiline (mark : Char) (read : Text → Except Fault (Text × Text)) (s : Text) :
    Except Fault (Text × Text) := do
  let body := match s with
    | '\n' :: t => t
    | t => t
  let (string, rest) ← read body
  let (extra, rest) := takeExtraMarks mark rest
  return (string ++ extra, rest)

/-- Read a string of one line; none where none starts. -/
def readLineString? : Text → Option (Except Fault (Text × Text))
  | '"' :: s => some (readBasic false 0 s)
  | '\'' :: s => some (readLiteral false s)
  | _ => none

/-- Read a string of any kind; none where none starts. -/
def readString? : Text → Option (Except Fault (Text × Text))
  | '"' :: '"' :: '"' :: s => some (readMultiline '"' (readBasic true 0) s)
  | '\'' :: '\'' :: '\'' :: s => some (readMultiline '\'' (readLiteral true) s)
  | s => readLineString? s

end MetricAudit.Toml
