/-
MetricAudit.Rendering.Handler — handlers of marked-up text.

A tag that starts with `@` stands for a handler. After an equals sign it
can have the handler's name and, in brackets, its arguments, which have to
be literals; without a name the whole text is the argument.

The arguments are read when the tag is closed; `check` says what is wrong
with them.
-/
import MetricAudit.Expression.Literal
import MetricAudit.Text.Blank
import MetricAudit.Text.Quoted

namespace MetricAudit.Rendering.Handler

/-- Why the arguments of a handler cannot be used. `written` is what
stands after the equals sign. -/
inductive Fault where
  | nullCharacter (written : Text)
  | noExpression (written arguments : Text) (fault : Expression.Fault)
  | noLiteral (written : Text) (fault : Expression.Literal.Fault)
  deriving DecidableEq, Repr

def Fault.message : Fault → Text
  | .nullCharacter written =>
    "error parsing " ++ Text.quoted written ++ "; source code string cannot contain null bytes"
  | .noExpression written arguments fault =>
    "error parsing " ++ Text.quoted arguments ++ " in " ++ Text.quoted written ++ "; "
      ++ fault.message
  | .noLiteral written fault =>
    "error parsing " ++ Text.quoted written ++ "; " ++ fault.message

/-- The arguments in a text, without the name of the handler. A name alone
has no arguments, and a text of another form is all arguments. -/
def arguments (written : Text) : Text :=
  let s := Text.strip written
  let rest := s.dropWhile fun c => Text.isWordChar c || c == '.'
  if rest.isEmpty then "()"
  else if rest.head? = some '(' && rest.getLast? = some ')' then rest
  else s

/-- Read the arguments in a text. -/
def check (written : Text) : Except Fault Unit :=
  let arguments := arguments written
  if arguments.contains '\x00' then .error (.nullCharacter written)
  else
    match Expression.read (arguments.dropWhile Expression.isGap) with
    | .error fault => .error (.noExpression written arguments fault)
    | .ok tree =>
      match Expression.Literal.value tree with
      | .error fault => .error (.noLiteral written fault)
      | .ok _ => .ok ()

end MetricAudit.Rendering.Handler
