/-
MetricAudit.Json.Printer — writing JSON.

Values are written on one line (`compact`) or on indented lines
(`indented`), the entries of a table in the order of their names. In a
string the quotation mark, the backslash and the controls below U+0020
are escaped, and every other character stands for itself. Numbers are
written in the shortest form that reads back. JSON has no moments: one is
written as the string that shows it.
-/
import MetricAudit.Data.Value

namespace MetricAudit.Json

/-- A character of a string. -/
def printChar (c : Char) : Text :=
  if c = '"' then "\\\""
  else if c = '\\' then "\\\\"
  else if c = '\n' then "\\n"
  else if c = '\r' then "\\r"
  else if c = '\t' then "\\t"
  else if c = '\x08' then "\\b"
  else if c = '\x0c' then "\\f"
  else if c.toNat < 0x20 then "\\u" ++ Text.ofNatPadded 16 4 c.toNat
  else [c]

/-- A string. -/
def printString (s : Text) : Text := '"' :: (s.flatMap printChar ++ ['"'])

/-- A real number. -/
def printReal : Binary64 → Text
  | .nan => "NaN"
  | .infinity false => "Infinity"
  | .infinity true => "-Infinity"
  | x => x.shown

/-- How the parts of a list or table are set apart. -/
inductive Spacing where
  | compact
  | indented
  deriving DecidableEq, Repr

namespace Spacing

/-- What stands inside the brackets of a list at a depth, at either
end. -/
def edge : Spacing → Nat → Text
  | .compact, _ => []
  | .indented, depth => '\n' :: List.replicate (2 * depth) ' '

/-- What stands between two parts at a depth. -/
def between : Spacing → Nat → Text
  | .compact, _ => ", "
  | .indented, depth => ',' :: edge .indented depth

/-- Parts between brackets; the brackets stand at the depth `depth`. -/
def enclose (spacing : Spacing) (opening closing : Char) (depth : Nat) :
    List Text → Text
  | [] => [opening, closing]
  | parts =>
    opening :: (spacing.edge (depth + 1) ++ Text.join (spacing.between (depth + 1)) parts
      ++ spacing.edge depth ++ [closing])

end Spacing

/-- Entries in the order of their names. -/
def sortEntries (entries : List (Text × Text)) : List (Text × Text) :=
  entries.mergeSort fun a b => !decide (b.1 < a.1)

/-- An entry of a table. -/
def printEntry (entry : Text × Text) : Text := printString entry.1 ++ ": " ++ entry.2

mutual

/-- A value at a depth. -/
def printAt (spacing : Spacing) (depth : Nat) : Data → Text
  | .nothing => "null"
  | .bool true => "true"
  | .bool false => "false"
  | .integer n => Text.ofInt n
  | .real x => printReal x
  | .text s => printString s
  | .moment m => printString m.shown
  | .list items =>
    spacing.enclose '[' ']' depth (printItems spacing (depth + 1) items)
  | .table entries =>
    spacing.enclose '\x7b' '\x7d' depth
      ((sortEntries (printEntries spacing (depth + 1) entries)).map printEntry)

def printItems (spacing : Spacing) (depth : Nat) : List Data → List Text
  | [] => []
  | item :: items => printAt spacing depth item :: printItems spacing depth items

def printEntries (spacing : Spacing) (depth : Nat) :
    List (Text × Data) → List (Text × Text)
  | [] => []
  | (name, value) :: entries =>
    (name, printAt spacing depth value) :: printEntries spacing depth entries

end

/-- A value on one line or on indented lines. -/
def print (spacing : Spacing) (value : Data) : Text := printAt spacing 0 value

end MetricAudit.Json
