/-
MetricAudit.Expression.Escape — texts in quotes in expressions.

Between its quotes a text can have escapes, which start with a backslash:
some name a character by its number in hexadecimal digits, or by its
Unicode name. A mark `b` before the quotes makes a text of bytes, in which
every character has to be of ASCII, and a mark `r` takes backslashes as
they are.

Positions in complaints count characters; a character outside ASCII
counts ten, as the escape for it does.
-/
import MetricAudit.Expression.Complaint
import MetricAudit.Expression.Tree
import MetricAudit.Text.CharacterName

namespace MetricAudit.Expression.Escape

/-! ## A text in quotes -/

/-- What stands between the quotes. -/
def body (t : Token) : Text :=
  let quoted := t.text.dropWhile fun c => c != '"' && c != '\''
  let n := if (quoted.length ≥ 6) && quoted.take 1 = (quoted.drop 1).take 1
      && quoted.take 1 = (quoted.drop 2).take 1 then 3 else 1
  (quoted.drop n).take (quoted.length - 2 * n)

/-- Whether a text is of bytes. -/
def isBytes (t : Token) : Bool := Tree.hasMark 'b' t

/-- Whether the backslashes of a text stand for themselves. -/
def isRaw (t : Token) : Bool := Tree.hasMark 'r' t

/-! ## Escapes of characters -/

/-- How many positions a character takes. -/
def positions (c : Char) : Nat := if c.toNat < 0x80 then 1 else 10

/-- How many positions a text takes, after a backslash if `escaped`. A
backslash that escapes nothing in ASCII takes five more. -/
def length (escaped : Bool) : Text → Nat
  | [] => if escaped then 5 else 0
  | c :: s =>
    (if escaped && 0x80 ≤ c.toNat then 5 else 0) + positions c
      + length (!escaped && c == '\\') s

/-- The run of hexadecimal digits at the front of a text, of at most `most`
digits. -/
def hexRun (most : Nat) (s : Text) : Text := (s.take most).takeWhile isHexadecimal

/-- What is wrong with an escape, and how many positions it takes after
the backslash. -/
structure Flaw where
  reason : Text
  length : Nat

/-- The flaw of an escape with so many hexadecimal digits after its
letter. -/
def hexFlaw? (form : Text) (count : Nat) (s : Text) : Option Flaw :=
  let digits := hexRun count s
  if digits.length < count then
    some ⟨"truncated " ++ form ++ " escape", 1 + digits.length⟩
  else if (Text.hexNumber? digits).any (0x110000 ≤ ·) then some ⟨"illegal Unicode character", 1 + count⟩
  else none

/-- The flaw of an escape by name. -/
def nameFlaw? : Text → Option Flaw
  | '\x7b' :: s =>
    let name := s.takeWhile (· != '\x7d')
    if name.length = s.length then
      some ⟨"malformed \\N character escape", 2 + length false name⟩
    else if name.isEmpty then some ⟨"malformed \\N character escape", 2⟩
    else if Text.isCharacterName name then none
    else some ⟨"unknown Unicode character name", 2 + length false (name ++ ['\x7d'])⟩
  | _ => some ⟨"malformed \\N character escape", 1⟩

/-- The flaw of the escape whose letter is at the front of a text. -/
def flaw? : Text → Option Flaw
  | [] => none
  | c :: s =>
    if c = 'x' then hexFlaw? "\\xXX" 2 s
    else if c = 'u' then hexFlaw? "\\uXXXX" 4 s
    else if c = 'U' then hexFlaw? "\\UXXXXXXXX" 8 s
    else if c = 'N' then nameFlaw? s
    else none

/-- The complaint about a text from a position on, after a backslash if
`escaped`. -/
def complaint? (position : Nat) (escaped : Bool) : Text → Option Complaint
  | [] => none
  | c :: s =>
    if escaped then
      match flaw? (c :: s) with
      | some flaw =>
        some <| .escape "unicode" <|
          "'unicodeescape' codec can't decode bytes in position "
            ++ Text.ofNat (position - 1) ++ "-" ++ Text.ofNat (position - 1 + flaw.length)
            ++ ": " ++ flaw.reason
      | none =>
        let backslash := if c.toNat < 0x80 then 0 else 5
        complaint? (position + backslash + positions c) false s
    else complaint? (position + positions c) (c == '\\') s

/-- The complaint about bytes from a position on, after a backslash if
`escaped`. -/
def bytesComplaint? (position : Nat) (escaped : Bool) : Text → Option Complaint
  | [] => none
  | c :: s =>
    if escaped && c = 'x' && (hexRun 2 s).length < 2 then
      some (.escape "value" ("invalid \\x escape at position " ++ Text.ofNat (position - 1)))
    else bytesComplaint? (position + 1) (!escaped && c == '\\') s

end MetricAudit.Expression.Escape
