/-
MetricAudit.Metric.Field — the plain text fields of a metric.

Each check looks at the text without the blanks around it, and lengths
are numbers of characters. The name, the symbol and the description of a
variable are required; the code and the description of the metric are
not.
-/
import MetricAudit.Formula.Variable
import MetricAudit.Verdict

namespace MetricAudit.Field

open Text (strip)

/-! ## Bounds -/

def nameLeast : Nat := 3
def nameMost : Nat := 150
def codeMost : Nat := 20
def symbolMost : Nat := 30
def variableDescriptionLeast : Nat := 3
def variableDescriptionMost : Nat := 200
def descriptionMost : Nat := 500
def descriptionShort : Nat := 10
def descriptionComplete : Nat := 50

/-! ## Forms of codes -/

/-- A letter of the ASCII alphabet. -/
def isLetter (c : Char) : Bool := Formula.isUpper c || ('a' ≤ c && c ≤ 'z')

/-- A character of a code. -/
def isCodeChar (c : Char) : Bool :=
  isLetter c || Text.isAsciiDigit c || c == '.' || c == '_' || c == '-'

/-- Uppercase letters, a hyphen, digits: the form of `PO-1`. -/
def isStandardCode (code : Text) : Bool :=
  match code.takeWhile Formula.isUpper, code.dropWhile Formula.isUpper with
  | _ :: _, '-' :: number => !number.isEmpty && number.all Text.isAsciiDigit
  | _, _ => false

/-! ## Checks -/

/-- A text of a bounded length: the subject of the messages, the bounds,
and the word of success. -/
def checkLength (subject : Text) (least most : Nat) (success : Text)
    (text : Text) : Verdict :=
  if text.length < least then
    .fail ("The " ++ subject ++ " must be at least " ++ Text.ofNat least
      ++ " characters long")
  else if most < text.length then
    .fail ("The " ++ subject ++ " cannot exceed " ++ Text.ofNat most
      ++ " characters")
  else .praise success

/-- The name of a metric. -/
def checkName (entry : Text) : Verdict :=
  let name := strip entry
  if name.isEmpty then .fail "The metric name is required"
  else checkLength "name" nameLeast nameMost "✓ Valid name" name

/-- The code of a metric. -/
def checkCode (entry : Text) : Verdict :=
  let code := strip entry
  if code.isEmpty then
    .caution "The code is optional but recommended for organization"
  else if codeMost < code.length then
    .fail ("The code cannot exceed " ++ Text.ofNat codeMost ++ " characters")
  else if !code.all isCodeChar then
    .fail "The code may only contain letters, digits, hyphens, underscores and dots"
  else if isStandardCode code then
    .praise "✓ Code in standard format (e.g. PO-1)"
  else .praise "✓ Valid code"

/-- The symbol of a variable. -/
def checkSymbol (entry : Text) : Verdict :=
  let symbol := strip entry
  if symbol.isEmpty then .fail "The variable symbol is required"
  else if !Formula.isSymbol symbol then
    .fail ("The symbol must start with an uppercase letter and use only uppercase letters, "
      ++ "digits and underscores (e.g. VAR_A)")
  else checkLength "symbol" 0 symbolMost "✓ Valid symbol" symbol

/-- The description of a variable. -/
def checkVariableDescription (entry : Text) : Verdict :=
  let description := strip entry
  if description.isEmpty then .fail "The variable description is required"
  else
    checkLength "description" variableDescriptionLeast variableDescriptionMost
      "✓ Valid description" description

/-- The description of a metric, of at most `most` characters. -/
def checkDescriptionWithin (most : Int) (entry : Text) : Verdict :=
  let description := strip entry
  let length := description.length
  if most < length then
    .fail ("The description cannot exceed " ++ Text.ofInt most
      ++ " characters (current: " ++ Text.ofNat length ++ ")")
  else if length = 0 then
    .caution "Adding a description is recommended for clarity"
  else if length < descriptionShort then
    .caution "Very short description. Consider adding more detail"
  else if descriptionComplete ≤ length then .praise "✓ Complete description"
  else .praise "✓ Valid description"

/-- The description of a metric. -/
def checkDescription (entry : Text) : Verdict :=
  checkDescriptionWithin descriptionMost entry

end MetricAudit.Field
