/-
MetricAudit.Expression.Grammar — the grammar of expressions.

The rules from `expression` down to `atom` are the levels of binding, the
loosest first. Each rule is a pattern over the others (`Rule.pattern`);
the ways for mistakes stand where the mistake would be met. A rule with
`isKept` is read once at a place, and what it came to is kept.
-/
import MetricAudit.Expression.Pattern
import MetricAudit.Expression.Template

namespace MetricAudit.Expression

/-- The rules of the grammar. -/
inductive Rule where
  | whole
  | expressions
  | expression
  | plainExpression
  | yieldExpression
  | starExpressions
  | starExpression
  | starNamedExpressions
  | starNamedExpression
  | assignment
  | namedExpression
  | namedMistake
  | disjunction
  | conjunction
  | inversion
  | comparison
  | comparisonStep
  | bitOr
  | bitXor
  | bitAnd
  | shift
  | sum
  | term
  | factor
  | power
  | awaited
  | primary
  | atom
  | texts
  | group
  | tuple
  | collection
  | table
  | entries
  | entry
  | pair
  | entriesMistake
  | pairMistake
  | clauses
  | clause
  | generator
  | collectionGenerator
  | tableGenerator
  | generatorMistake
  | arguments
  | argumentsMistake
  | args
  | positionalArgument
  | namedArguments
  | namedOrStarred
  | namedOrSpread
  | namedArgumentMistake
  | starredExpression
  | targets
  | target
  | targetWithStar
  | starAtom
  | targetTuple
  | targetPrimary
  | targetAhead
  | function
  | parameters
  | parametersMistake
  | slashPlain
  | slashDefault
  | starParameters
  | starMistake
  | namedParameters
  | namedParametersMistake
  | plainParameter
  | defaultParameter
  | anyParameter
  | defaultValue
  deriving DecidableEq, Hashable, Repr

namespace Rule

open Pattern

/-- Whether what a rule comes to at a place is kept. -/
def isKept : Rule → Bool
  | .expression | .starExpression | .namedMistake | .disjunction | .conjunction
  | .inversion | .bitOr | .bitXor | .bitAnd | .shift | .sum | .term | .factor | .awaited
  | .primary | .texts | .arguments | .target | .targetWithStar | .targetPrimary => true
  | _ => false

/-! ## Objections -/

/-- The part of an expression at a position. -/
def partAt (trees : List Tree) (i : Nat) : Tree := trees.getD i default

/-- The names of commands that were once written without brackets. -/
def bareCommands : List String := ["print", "exec"]

/-- Whether a tree is the name of such a command. -/
def isBareCommand (t : Tree) : Bool :=
  bareCommands.any fun command => t.name? == some command.toList

/-- Two expressions side by side lack a comma, if they are in brackets. -/
def commaObjection : Objection := fun trees last =>
  if isBareCommand (partAt trees 0) || last.depth = 0 then none else some .forgottenComma

/-- A command that is not called. -/
def commandObjection : Objection := fun trees _ =>
  if isBareCommand (partAt trees 0) then
    (partAt trees 0).name?.map .callWithoutBrackets
  else none

/-- A description of what is assigned to. -/
def descriptionObjection (c : Text → Complaint) : Objection := fun trees _ =>
  some (c (partAt trees 0).description)

/-- A target of a loop that is none. -/
def targetObjection : Objection := fun trees _ =>
  (Tree.firstNotAssignable? trees).map fun t => .notAssigned t.description

/-- The arguments of a call that a tree holds. -/
def argumentsOf : Tree → List Tree
  | .node .arguments parts => parts
  | _ => []

/-- Whether an argument stands without a name. -/
def isPositional : Tree → Bool
  | .node .namedArgument _ => false
  | .node .spreadArgument _ => false
  | _ => true

/-- A generator after other arguments. -/
def lastGeneratorObjection : Objection := fun trees _ =>
  if ((argumentsOf (partAt trees 0)).filter isPositional).length ≤ 1 then none
  else some .generatorWithoutBrackets

/-- Whether arguments are taken over with their names. -/
def isSpread : Tree → Bool
  | .node .spreadArgument _ => true
  | _ => false

/-- Arguments after those that have to be last. -/
def orderObjection : Objection := fun trees _ =>
  if (argumentsOf (partAt trees 0)).any isSpread then some .positionalAfterSpread
  else some .positionalAfterNamed

/-- A constant as the name of an argument. -/
def constantNameObjection : Objection := fun trees _ =>
  some (.notNamedArgument (partAt trees 0).description)

/-- A number with too many digits to be read. Zeros alone are no trouble,
however many. -/
def numberObjection : Objection := fun _ last =>
  let digits := last.text.filter (· != '_')
  if digits.all (· == '0') then none else
  if digits.all Text.isAsciiDigit && DigitLimit.most < digits.length then
    some (.tooManyDigits digits.length)
  else none

/-- The tokens of leaves. -/
def leaves (trees : List Tree) : List Token :=
  trees.filterMap fun t =>
    match t with
    | .leaf token => some token
    | .node _ _ => none

/-- Texts side by side that make no text. -/
def textsObjection (reason? : Text → Option Text) : Objection := fun trees _ =>
  Template.textsComplaint? reason? (leaves trees)

/-! ## Patterns that several rules share -/

/-- Operands with operators between them, taken from the left. -/
def leftwards (operand : Rule) (operators : List String) : Pattern Rule :=
  .chain (.rule operand)
    (.choice (operators.map fun s => .form .binary (.all [operator s, .rule operand])))

/-- Operands with a keyword between them, all on one level. -/
def joined (operand : Rule) (word : String) : Pattern Rule :=
  .choice [
    .form .logical (.all [.rule operand, repeated (.all [keyword word, .rule operand])]),
    .rule operand]

/-- A choice between two, after a condition. -/
def conditional : Pattern Rule :=
  .form .conditional (.all [.rule .disjunction, keyword "if", .rule .disjunction,
    keyword "else", .rule .expression])

/-- An expression that no name is given to. -/
def unnamed : Pattern Rule := .all [.rule .expression, .unlessAhead (sign ":=")]

/-- An argument in brackets, where there are any. -/
def callBrackets : Pattern Rule :=
  .all [sign "(", optional (.rule .arguments), sign ")"]

/-- The end of a value, where the value itself is missing. -/
def entryEnd : Pattern Rule := .ahead (.choice [sign "\x7d", sign ","])

/-- A parameter before a comma, or before the colon. -/
def parameterEnd : Pattern Rule := .choice [sign ",", .ahead (sign ":")]

/-- A starred value of an entry. -/
def starredValue : Pattern Rule :=
  mistake .starredValue (.all [.rule .expression, sign ":", sign "*", .rule .bitOr])

/-- An entry without a value. -/
def missingValue : Pattern Rule :=
  mistake .keyWithoutValue (.all [.rule .expression, sign ":", entryEnd])

/-- A name that something is assigned to, and then used in a loop. -/
def assignedLoop : Pattern Rule :=
  mistake .assignedInExpression
    (.all [name, sign "=", .rule .expression, .rule .clauses])

/-- A loop after a keyword or two: a target, a sequence, conditions. -/
def loop (start : List (Pattern Rule)) (otherwise : Pattern Rule) : Pattern Rule :=
  .commit (.all (start ++ [keyword "for", .rule .targets, keyword "in"]))
    (.all [.rule .disjunction, .many (.all [keyword "if", .rule .disjunction])])
    otherwise

/-- Parameters up to a slash. -/
def slashAfter (before : List (Pattern Rule)) : Pattern Rule :=
  .all (before ++ [sign "/", .choice [sign ",", .ahead (sign ":")]])

/-- Parameters up to a slash, of either kind. -/
def anySlash : Pattern Rule := .choice [.rule .slashPlain, .rule .slashDefault]

/-- A comma, or a parameter without a default. -/
def plainOrComma : Pattern Rule := .choice [.rule .plainParameter, sign ","]

/-! ## The rules -/

/-- The pattern of a rule. It takes a function that says what is wrong
with an expression in a template. -/
def pattern (reason? : Text → Option Text) : Rule → Pattern Rule
  | .whole => .all [.rule .expressions, .skip .finish]
  | .expressions => .choice [
      .form .tuple (.all [.rule .expression, repeated (.all [sign ",", .rule .expression]),
        optional (sign ",")]),
      .form .tuple (.all [.rule .expression, sign ","]),
      .rule .expression]
  | .expression => .choice [
      suspect commaObjection (.all [
        .unlessAhead (.choice [.all [name, .keep .quote], .keep .softKeyword]),
        .rule .disjunction, .rule .plainExpression]),
      mistake .forgottenElse (.all [.rule .disjunction, keyword "if", .rule .disjunction,
        .unlessAhead (.choice [keyword "else", sign ":"])]),
      suspect commandObjection (.all [name, .unlessAhead (sign "("), .rule .starExpressions]),
      conditional,
      .rule .disjunction,
      .rule .function]
  | .plainExpression => .lenient (.choice [conditional, .rule .disjunction, .rule .function])
  | .yieldExpression => .choice [
      .form .yielded (.all [keyword "yield", keyword "from", .rule .expression]),
      .form .yielded (.all [keyword "yield", optional (.rule .starExpressions)])]
  | .starExpressions => .choice [
      .form .tuple (.all [.rule .starExpression,
        repeated (.all [sign ",", .rule .starExpression]), optional (sign ",")]),
      .form .tuple (.all [.rule .starExpression, sign ","]),
      .rule .starExpression]
  | .starExpression => .choice [
      .form .starred (.all [sign "*", .rule .bitOr]),
      .rule .expression]
  | .starNamedExpressions =>
      .all [separated (.rule .starNamedExpression), optional (sign ",")]
  | .starNamedExpression => .choice [
      .form .starred (.all [sign "*", .rule .bitOr]),
      .rule .namedExpression]
  | .assignment => .form .assignment (.all [name, sign ":=", .rule .expression])
  | .namedExpression => .choice [.rule .assignment, .ifStrict (.rule .namedMistake), unnamed]
  | .namedMistake => .choice [
      suspect (descriptionObjection .notNamed)
        (.all [.rule .expression, sign ":=", .rule .expression]),
      mistake .assignedInExpression (.all [name, sign "=", .rule .bitOr,
        .unlessAhead (.choice [sign "=", sign ":="])]),
      suspect (descriptionObjection .notAssignedHere) (.all [
        .unlessAhead (.choice [.rule .tuple, .rule .generator, keyword "True",
          keyword "None", keyword "False"]),
        .rule .bitOr, sign "=", .rule .bitOr,
        .unlessAhead (.choice [sign "=", sign ":="])])]
  | .disjunction => joined .conjunction "or"
  | .conjunction => joined .inversion "and"
  | .inversion => .choice [
      .form .unary (.all [keyword "not", .rule .inversion]),
      .rule .comparison]
  | .comparison => .choice [
      .form .comparison (.all [.rule .bitOr, repeated (.rule .comparisonStep)]),
      .rule .bitOr]
  | .comparisonStep => .choice [
      .all [operator "==", .rule .bitOr],
      .all [operator "!=", .rule .bitOr],
      .all [operator "<=", .rule .bitOr],
      .all [operator "<", .rule .bitOr],
      .all [operator ">=", .rule .bitOr],
      .all [operator ">", .rule .bitOr],
      .all [.keep (.keyword "not"), keyword "in", .rule .bitOr],
      .all [.keep (.keyword "in"), .rule .bitOr],
      .all [.keep (.keyword "is"), keyword "not", .rule .bitOr],
      .all [.keep (.keyword "is"), .rule .bitOr]]
  | .bitOr => leftwards .bitXor ["|"]
  | .bitXor => leftwards .bitAnd ["^"]
  | .bitAnd => leftwards .shift ["&"]
  | .shift => leftwards .sum ["<<", ">>"]
  | .sum => leftwards .term ["+", "-"]
  | .term => leftwards .factor ["*", "/", "//", "%", "@"]
  | .factor => .choice [
      .form .unary (.all [operator "+", .rule .factor]),
      .form .unary (.all [operator "-", .rule .factor]),
      .form .unary (.all [operator "~", .rule .factor]),
      .rule .power]
  | .power => .choice [
      .form .binary (.all [.rule .awaited, operator "**", .rule .factor]),
      .rule .awaited]
  | .awaited => .choice [
      .form .awaited (.all [keyword "await", .rule .primary]),
      .rule .primary]
  | .primary => .chain (.rule .atom) (.choice [
      .form .attribute (.all [sign ".", name]),
      .form .call (.rule .generator),
      .form .call callBrackets])
  | .atom => .choice [
      name,
      .keep (.keyword "True"),
      .keep (.keyword "False"),
      .keep (.keyword "None"),
      .all [.ahead (.keep .quote), .rule .texts],
      .check numberObjection (.keep .number),
      .all [.ahead (sign "("), .choice [.rule .tuple, .rule .group, .rule .generator]],
      .all [.ahead (sign "\x7b"), .choice [.rule .table, .rule .collection,
        .rule .tableGenerator, .rule .collectionGenerator]],
      operator "..."]
  | .texts => .form .texts (.check (textsObjection reason?) (repeated (.keep .quote)))
  | .group => .choice [
      .all [sign "(", .choice [.rule .yieldExpression, .rule .namedExpression], sign ")"],
      mistake .starredGroup (.all [sign "(", .rule .starredExpression, sign ")"]),
      mistake .doublyStarredGroup (.all [sign "(", sign "**", .rule .expression, sign ")"])]
  | .tuple => .form .tuple (.all [sign "(",
      optional (.all [.rule .starNamedExpression, sign ",",
        optional (.rule .starNamedExpressions)]),
      sign ")"])
  | .collection =>
      .form .collection (.all [sign "\x7b", .rule .starNamedExpressions, sign "\x7d"])
  | .table => .choice [
      .form .table (.all [sign "\x7b", optional (.rule .entries), sign "\x7d"]),
      .all [sign "\x7b", .rule .entriesMistake, sign "\x7d"]]
  | .entries => .all [separated (.rule .entry), optional (sign ",")]
  | .entry => .choice [
      .form .spreadEntry (.all [sign "**", .rule .bitOr]),
      .rule .pair]
  | .pair => .form .entry (.all [.rule .expression, sign ":", .rule .expression])
  | .entriesMistake => .choice [
      .all [separated (.rule .entry), sign ",", .rule .pairMistake],
      .warn (fun _ _ => some .starredValue)
        (.all [.rule .expression, sign ":", sign "*", .rule .bitOr]),
      .warn (fun _ _ => some .keyWithoutValue)
        (.all [.rule .expression, sign ":", entryEnd])]
  | .pairMistake => .choice [
      .warn (fun _ _ => some .keyWithoutColon)
        (.all [.rule .expression, .unlessAhead (sign ":")]),
      .warn (fun _ _ => some .starredValue)
        (.all [.rule .expression, sign ":", sign "*", .rule .bitOr]),
      .warn (fun _ _ => some .keyWithoutValue)
        (.all [.rule .expression, sign ":", entryEnd])]
  | .clauses => repeated (.rule .clause)
  | .clause =>
      loop [keyword "async"] <| loop [] <|
        suspect targetObjection (.all [optional (keyword "async"), keyword "for",
          .rule .starExpressions])
  | .generator => .choice [
      .form .generator (.all [sign "(", .choice [.rule .assignment, unnamed],
        .rule .clauses, sign ")"]),
      .ifStrict (.rule .generatorMistake)]
  | .collectionGenerator => .choice [
      .form .collectionGenerator (.all [sign "\x7b", .rule .namedExpression,
        .rule .clauses, sign "\x7d"]),
      .ifStrict (.rule .generatorMistake)]
  | .tableGenerator => .choice [
      .form .tableGenerator (.all [sign "\x7b", .rule .pair, .rule .clauses, sign "\x7d"]),
      mistake .spreadGenerator (.all [sign "\x7b", sign "**", .rule .bitOr,
        .rule .clauses, sign "\x7d"])]
  | .generatorMistake => .choice [
      mistake .starredGenerator (.all [.choice [sign "(", sign "\x7b"],
        .rule .starredExpression, .rule .clauses]),
      mistake .targetWithoutBrackets (.all [sign "\x7b", .rule .starNamedExpression,
        sign ",", .rule .starNamedExpressions, .rule .clauses]),
      mistake .targetWithoutBrackets (.all [sign "\x7b", .rule .starNamedExpression,
        sign ",", .rule .clauses])]
  | .arguments => .choice [
      .all [.rule .args, optional (sign ","), .ahead (sign ")")],
      .ifStrict (.rule .argumentsMistake)]
  | .argumentsMistake => .choice [
      mistake .starredAfterSpread (.all [.rule .args, sign ",", sign "*"]),
      mistake .generatorWithoutBrackets (.all [.rule .expression, .rule .clauses, sign ",",
        optional (.choice [.rule .args, .all [.rule .expression, .rule .clauses]])]),
      assignedLoop,
      suspect lastGeneratorObjection (.all [.rule .args, .rule .clauses]),
      mistake .generatorWithoutBrackets
        (.all [.rule .args, sign ",", .rule .expression, .rule .clauses]),
      suspect orderObjection (.all [.rule .args, sign ",", .rule .args])]
  | .args => .form .arguments (.choice [
      .all [separated (.rule .positionalArgument),
        optional (.all [sign ",", .rule .namedArguments])],
      .rule .namedArguments])
  | .positionalArgument => .choice [
      .rule .starredExpression,
      .all [.choice [.rule .assignment, unnamed], .unlessAhead (sign "=")]]
  | .namedArguments => .choice [
      .all [separated (.rule .namedOrStarred), sign ",", separated (.rule .namedOrSpread)],
      separated (.rule .namedOrStarred),
      separated (.rule .namedOrSpread)]
  | .namedOrStarred => .choice [
      .ifStrict (.rule .namedArgumentMistake),
      .form .namedArgument (.all [name, sign "=", .rule .expression]),
      .rule .starredExpression]
  | .namedOrSpread => .choice [
      .ifStrict (.rule .namedArgumentMistake),
      .form .namedArgument (.all [name, sign "=", .rule .expression]),
      .form .spreadArgument (.all [sign "**", .rule .expression])]
  | .namedArgumentMistake => .choice [
      suspect constantNameObjection (.all [.choice [.keep (.keyword "True"),
        .keep (.keyword "False"), .keep (.keyword "None")], sign "="]),
      assignedLoop,
      mistake .comparedArgument (.all [.unlessAhead (.all [name, sign "="]),
        .rule .expression, sign "="])]
  | .starredExpression => .form .starred (.all [sign "*", .rule .expression])
  | .targets => .choice [
      .all [.rule .target, .unlessAhead (sign ",")],
      .all [.rule .target, .many (.all [sign ",", .rule .target]), optional (sign ",")]]
  | .target => .choice [
      .all [sign "*", .unlessAhead (sign "*"), .rule .target],
      .rule .targetWithStar]
  | .targetWithStar => .choice [
      .all [.rule .targetPrimary, sign ".", name, .unlessAhead (.rule .targetAhead)],
      .rule .starAtom]
  | .starAtom => .choice [
      name,
      .all [sign "(", .rule .targetWithStar, sign ")"],
      .all [sign "(", optional (.rule .targetTuple), sign ")"]]
  | .targetTuple => .choice [
      .all [.rule .target, repeated (.all [sign ",", .rule .target]), optional (sign ",")],
      .all [.rule .target, sign ","]]
  | .targetPrimary => .chain (.all [.rule .atom, .ahead (.rule .targetAhead)]) (.choice [
      .form .attribute (.all [sign ".", name, .ahead (.rule .targetAhead)]),
      .form .call (.all [.rule .generator, .ahead (.rule .targetAhead)]),
      .form .call (.all [callBrackets, .ahead (.rule .targetAhead)])])
  | .targetAhead => .choice [sign "(", sign "."]
  | .function => .form .function (.all [keyword "lambda", optional (.rule .parameters),
      sign ":", .rule .expression])
  | .parameters => .choice [
      .ifStrict (.rule .parametersMistake),
      .all [.rule .slashPlain, .many (.rule .plainParameter),
        .many (.rule .defaultParameter), optional (.rule .starParameters)],
      .all [.rule .slashDefault, .many (.rule .defaultParameter),
        optional (.rule .starParameters)],
      .all [repeated (.rule .plainParameter), .many (.rule .defaultParameter),
        optional (.rule .starParameters)],
      .all [repeated (.rule .defaultParameter), optional (.rule .starParameters)],
      .rule .starParameters]
  | .parametersMistake => .choice [
      mistake .defaultBeforeNone (.all [.many (.rule .plainParameter),
        .choice [.rule .slashDefault, repeated (.rule .defaultParameter)],
        .rule .plainParameter]),
      mistake .bracketedParameters (.all [.many (.rule .plainParameter), sign "(",
        separated name, optional (sign ","), sign ")"]),
      mistake .slashFirst (.all [sign "/", sign ","]),
      mistake .slashTwice (.all [anySlash, .many (.rule .anyParameter), sign "/"]),
      mistake .slashAfterStar (.all [optional anySlash, .many (.rule .anyParameter),
        sign "*", .choice [sign ",", .rule .plainParameter], .many (.rule .anyParameter),
        sign "/"]),
      mistake .slashBeforeStar (.all [repeated (.rule .anyParameter), sign "/", sign "*"])]
  | .slashPlain => .choice [
      .all [repeated (.rule .plainParameter), sign "/", sign ","],
      .all [repeated (.rule .plainParameter), sign "/", .ahead (sign ":")]]
  | .slashDefault => .choice [
      .all [.many (.rule .plainParameter), repeated (.rule .defaultParameter), sign "/", sign ","],
      .all [.many (.rule .plainParameter), repeated (.rule .defaultParameter), sign "/",
        .ahead (sign ":")]]
  | .starParameters => .choice [
      .ifStrict (.rule .starMistake),
      .all [sign "*", .rule .plainParameter, .many (.rule .anyParameter),
        optional (.rule .namedParameters)],
      .all [sign "*", sign ",", repeated (.rule .anyParameter),
        optional (.rule .namedParameters)],
      .rule .namedParameters]
  | .starMistake => .choice [
      mistake .bareStar (.all [sign "*", .choice [sign ":",
        .all [sign ",", .choice [sign ":", sign "**"]]]]),
      mistake .starDefault (.all [sign "*", name, sign "="]),
      mistake .starTwice (.all [sign "*", plainOrComma, .many (.rule .anyParameter),
        sign "*", plainOrComma])]
  | .namedParameters => .choice [
      .ifStrict (.rule .namedParametersMistake),
      .all [sign "**", .rule .plainParameter]]
  | .namedParametersMistake => .choice [
      mistake .namedDefault (.all [sign "**", name, sign "="]),
      mistake .afterNamed (.all [sign "**", name, sign ",", name]),
      mistake .afterNamed (.all [sign "**", name, sign ",",
        .choice [sign "*", sign "**", sign "/"]])]
  | .plainParameter => .all [name, parameterEnd]
  | .defaultParameter => .all [name, .rule .defaultValue, parameterEnd]
  | .anyParameter => .all [name, optional (.rule .defaultValue), parameterEnd]
  | .defaultValue => .choice [
      .all [sign "=", .rule .expression],
      mistake .missingDefault (.all [sign "=", .ahead (.choice [sign ")", sign ","])])]

end Rule
end MetricAudit.Expression
