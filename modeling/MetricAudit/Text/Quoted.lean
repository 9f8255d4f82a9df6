/-
MetricAudit.Text.Quoted — texts in quotation marks, for messages.

A text is shown between apostrophes, or between double quotation marks
where it holds an apostrophe and no double quotation mark. The mark in
use and the backslash take a backslash; newline, carriage return and tab
have escapes of their own, and any other unprintable character is
written by its code point in two, four or eight hexadecimal digits.
-/
import MetricAudit.Text.Printable

namespace MetricAudit.Text

/-- The mark that a text is quoted with. -/
def quotationMark (s : Text) : Char :=
  if s.contains '\'' && !s.contains '"' then '"' else '\''

/-- A character by its code point, in the shortest of the three
forms. -/
def codePointEscape (c : Char) : Text :=
  let n := c.toNat
  if n < 0x100 then "\\x" ++ ofNatPadded 16 2 n
  else if n < 0x10000 then "\\u" ++ ofNatPadded 16 4 n
  else "\\U" ++ ofNatPadded 16 8 n

/-- A character as it is written between quotation marks `mark`. -/
def quotedChar (mark c : Char) : Text :=
  if c = mark ∨ c = '\\' then ['\\', c]
  else if c = '\n' then "\\n"
  else if c = '\r' then "\\r"
  else if c = '\t' then "\\t"
  else if isPrintable c then [c]
  else codePointEscape c

/-- A text in quotation marks. -/
def quoted (s : Text) : Text :=
  let mark := quotationMark s
  mark :: (s.flatMap (quotedChar mark) ++ [mark])

/-- An entered text in quotation marks, where `None` shows that there is
none. -/
def quoted? : Option Text → Text
  | none => "None"
  | some s => quoted s

end MetricAudit.Text
