/-
MetricAudit.Expression.Complaint — what is wrong with expressions.

A text that makes no expression gets the most telling complaint there is:
the grammar knows many mistakes by their form, and `invalid` is left for
the others. A fault of the tokens is of another kind, see
`LexicalFault`.
-/
import MetricAudit.Expression.Token
import MetricAudit.Number.DigitLimit

namespace MetricAudit.Expression

/-- A mistake in the inserts of a text. -/
inductive InsertFlaw where
  | singleBrace
  | nestedTooDeep
  | backslash
  | comment
  | unterminatedText
  | tooManyBrackets
  | unmatched (bracket : Char)
  | mismatched (closing opening : Char)
  | empty
  | missingBefore (sign : Char)
  | unknownConversion
  | endExpected
  deriving DecidableEq, Repr

def InsertFlaw.message : InsertFlaw → Text
  | .singleBrace => "single '\x7d' is not allowed"
  | .nestedTooDeep => "expressions nested too deeply"
  | .backslash => "expression part cannot include a backslash"
  | .comment => "expression part cannot include '#'"
  | .unterminatedText => "unterminated string"
  | .tooManyBrackets => "too many nested parenthesis"
  | .unmatched bracket => "unmatched '" ++ [bracket] ++ "'"
  | .mismatched closing opening =>
    "closing parenthesis '" ++ [closing] ++ "' does not match opening parenthesis '"
      ++ [opening] ++ "'"
  | .empty => "empty expression not allowed"
  | .missingBefore sign => "expression required before '" ++ [sign] ++ "'"
  | .unknownConversion => "invalid conversion character: expected 's', 'r', or 'a'"
  | .endExpected => "expecting '\x7d'"

/-- A mistake in an expression. -/
inductive Complaint where
  | invalid
  | forgottenComma
  | forgottenElse
  | assignedInExpression
  | notAssignedHere (description : Text)
  | notAssigned (description : Text)
  | notNamed (description : Text)
  | notNamedArgument (keyword : Text)
  | comparedArgument
  | callWithoutBrackets (name : Text)
  | starredGroup
  | doublyStarredGroup
  | starredGenerator
  | spreadGenerator
  | targetWithoutBrackets
  | generatorWithoutBrackets
  | positionalAfterNamed
  | positionalAfterSpread
  | starredAfterSpread
  | keyWithoutColon
  | keyWithoutValue
  | starredValue
  | missingDefault
  | defaultBeforeNone
  | bracketedParameters
  | slashFirst
  | slashTwice
  | slashAfterStar
  | slashBeforeStar
  | bareStar
  | starDefault
  | starTwice
  | namedDefault
  | afterNamed
  | mixedTexts
  | wideBytes
  /-- An escape that cannot be read, with what is wrong in words. -/
  | escape (kind reason : Text)
  | tooManyDigits (digits : Nat)
  | insert (flaw : InsertFlaw)
  /-- An insert of a text holds no expression, for a reason in words. -/
  | inserted (reason : Text)
  deriving DecidableEq, Repr

namespace Complaint

/-- What complaints about an insert start with. -/
def insertMark : Text := "f-string: "

def message : Complaint → Text
  | .invalid => "invalid syntax"
  | .forgottenComma => "invalid syntax. Perhaps you forgot a comma?"
  | .forgottenElse => "expected 'else' after 'if' expression"
  | .assignedInExpression => "invalid syntax. Maybe you meant '==' or ':=' instead of '='?"
  | .notAssignedHere description =>
    "cannot assign to " ++ description ++ " here. Maybe you meant '==' instead of '='?"
  | .notAssigned description => "cannot assign to " ++ description
  | .notNamed description => "cannot use assignment expressions with " ++ description
  | .notNamedArgument keyword => "cannot assign to " ++ keyword
  | .comparedArgument => "expression cannot contain assignment, perhaps you meant \"==\"?"
  | .callWithoutBrackets name =>
    "Missing parentheses in call to '" ++ name ++ "'. Did you mean " ++ name ++ "(...)?"
  | .starredGroup => "cannot use starred expression here"
  | .doublyStarredGroup => "cannot use double starred expression here"
  | .starredGenerator => "iterable unpacking cannot be used in comprehension"
  | .spreadGenerator => "dict unpacking cannot be used in dict comprehension"
  | .targetWithoutBrackets => "did you forget parentheses around the comprehension target?"
  | .generatorWithoutBrackets => "Generator expression must be parenthesized"
  | .positionalAfterNamed => "positional argument follows keyword argument"
  | .positionalAfterSpread => "positional argument follows keyword argument unpacking"
  | .starredAfterSpread => "iterable argument unpacking follows keyword argument unpacking"
  | .keyWithoutColon => "':' expected after dictionary key"
  | .keyWithoutValue => "expression expected after dictionary key and ':'"
  | .starredValue => "cannot use a starred expression in a dictionary value"
  | .missingDefault => "expected default value expression"
  | .defaultBeforeNone => "non-default argument follows default argument"
  | .bracketedParameters => "Lambda expression parameters cannot be parenthesized"
  | .slashFirst => "at least one argument must precede /"
  | .slashTwice => "/ may appear only once"
  | .slashAfterStar => "/ must be ahead of *"
  | .slashBeforeStar => "expected comma between / and *"
  | .bareStar => "named arguments must follow bare *"
  | .starDefault => "var-positional argument cannot have default value"
  | .starTwice => "* argument may appear only once"
  | .namedDefault => "var-keyword argument cannot have default value"
  | .afterNamed => "arguments cannot follow var-keyword argument"
  | .mixedTexts => "cannot mix bytes and nonbytes literals"
  | .wideBytes => "bytes can only contain ASCII literal characters"
  | .escape kind reason => "(" ++ kind ++ " error) " ++ reason
  | .tooManyDigits digits =>
    DigitLimit.message digits
      ++ " - Consider hexadecimal for huge integer literals to avoid decimal conversion limits."
  | .insert flaw =>
    match flaw with
    | .backslash => "f-string " ++ flaw.message
    | .comment => "f-string " ++ flaw.message
    | _ => insertMark ++ flaw.message
  | .inserted reason => reason

end Complaint

/-- Why a text makes no expression. -/
inductive Fault where
  | lexical (fault : LexicalFault)
  | complaint (c : Complaint)
  deriving DecidableEq, Repr

namespace Fault

def message : Fault → Text
  | .lexical fault => fault.message
  | .complaint c => c.message

/-- The message about an insert with a fault. A fault of an insert in it
is told as it is. -/
def insertMessage : Fault → Text
  | .lexical fault => fault.message
  | .complaint (.inserted reason) => reason
  | .complaint c => Complaint.insertMark ++ c.message

end Fault

end MetricAudit.Expression
