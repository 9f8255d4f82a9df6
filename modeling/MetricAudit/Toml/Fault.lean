/-
MetricAudit.Toml.Fault — what can be wrong with a TOML document.

A complaint says what is wrong, and a fault where: `rest` is the text
that is left at that place. The place is given by line and column, or as
the end of the document. An integer of more than 4300 digits is refused
with its number of digits, and so are values that nest too deep.
-/
import MetricAudit.Data.NestingLimit
import MetricAudit.Text.Place
import MetricAudit.Text.Quoted

namespace MetricAudit.Toml

/-- A key: its parts, outermost first. -/
abbrev Key := List Text

/-- A key in brackets; a comma follows a single part. -/
def Key.shown (key : Key) : Text :=
  let parts := key.map Text.quoted
  let ending : Text := if parts.length = 1 then ",)" else ")"
  '(' :: (Text.join ", " parts ++ ending)

/-- What is wrong. -/
inductive Complaint where
  | invalidStatement
  | lineEndExpected
  | invalidCharacter (c : Char)
  | invalidKeyStart
  | equalsExpected
  | tableEndExpected
  | listEndExpected
  | declaredTwice (key : Key)
  | overwritten
  | immutable (key : Key)
  | redefined (key : Key)
  | duplicateKey (name : Text)
  | invalidValue
  | unclosedArray
  | unclosedTable
  | unterminatedString
  | markExpected (mark : Text)
  | illegalCharacter (c : Char)
  | unescapedBackslash
  | invalidHex
  | notAScalar
  | invalidMoment
  deriving DecidableEq, Repr

def Complaint.message : Complaint → Text
  | .invalidStatement => "Invalid statement"
  | .lineEndExpected => "Expected newline or end of document after a statement"
  | .invalidCharacter c => "Found invalid character " ++ Text.quoted [c]
  | .invalidKeyStart => "Invalid initial character for a key part"
  | .equalsExpected => "Expected '=' after a key in a key/value pair"
  | .tableEndExpected => "Expected ']' at the end of a table declaration"
  | .listEndExpected => "Expected ']]' at the end of an array declaration"
  | .declaredTwice key => "Cannot declare " ++ key.shown ++ " twice"
  | .overwritten => "Cannot overwrite a value"
  | .immutable key => "Cannot mutate immutable namespace " ++ key.shown
  | .redefined key => "Cannot redefine namespace " ++ key.shown
  | .duplicateKey name => "Duplicate inline table key " ++ Text.quoted name
  | .invalidValue => "Invalid value"
  | .unclosedArray => "Unclosed array"
  | .unclosedTable => "Unclosed inline table"
  | .unterminatedString => "Unterminated string"
  | .markExpected mark => "Expected " ++ Text.quoted mark
  | .illegalCharacter c => "Illegal character " ++ Text.quoted [c]
  | .unescapedBackslash => "Unescaped '\\' in a string"
  | .invalidHex => "Invalid hex value"
  | .notAScalar => "Escaped character is not a Unicode scalar value"
  | .invalidMoment => "Invalid date or datetime"

/-- Why a document is not read. -/
inductive Fault where
  | misplaced (complaint : Complaint) (rest : Text)
  | tooManyDigits (digits : Nat)
  | tooDeep (task : NestingLimit.Task)
  deriving DecidableEq, Repr

/-- Stop with a complaint about what is left. -/
def stop {α : Type} (complaint : Complaint) (rest : Text) : Except Fault α :=
  .error (.misplaced complaint rest)

/-- A complaint about a document, with its place. -/
def misplacedMessage (whole : Text) (complaint : Complaint) (rest : Text) : Text :=
  let place : Text :=
    if rest.isEmpty then "end of document"
    else
      let p := Text.Place.of whole rest
      "line " ++ Text.ofNat p.line ++ ", column " ++ Text.ofNat p.column
  complaint.message ++ " (at " ++ place ++ ")"

end MetricAudit.Toml
