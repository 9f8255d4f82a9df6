/-
MetricAudit.Command.Request — what a command line asks for.

`Request.ofArguments` turns the arguments of the program into a request,
or says how they are misused. A request for the version or for help wins
over a command.
-/
import MetricAudit.Command.Arguments
import MetricAudit.Command.Completion
import MetricAudit.FileTree

namespace MetricAudit.Command

/-- The forms of a report. -/
inductive ReportFormat where
  | human
  | json
  deriving DecidableEq, Repr

namespace ReportFormat

def name : ReportFormat → Text
  | .human => "human"
  | .json => "json"

/-- A letter with its case set aside. The long s is an s. -/
def foldCase (c : Char) : Char := if c = 'ſ' then 's' else c.toLower

/-- The form of a name, in letters of either case. -/
def ofName? (name : Text) : Option ReportFormat :=
  [.human, .json].find? (·.name == name.map foldCase)

end ReportFormat

/-- Where output goes. -/
inductive Destination where
  | standard
  | file (p : Path)
  deriving DecidableEq, Repr

namespace Destination

/-- The path that stands for the standard output. -/
def hyphen : Path := .parse "-"

/-- The destination that an option names. -/
def ofText (s : Option Text) : Destination :=
  match s.map Path.parse with
  | none => .standard
  | some p => if p = hyphen then .standard else .file p

/-- The path of a destination, where it is a file. -/
def paths : Destination → List Path
  | .standard => []
  | .file p => [p]

end Destination

/-- A request to check the metrics in files. -/
structure CheckRequest where
  paths : List Path
  format : ReportFormat := .human
  output : Destination := .standard
  optionalFormula : Bool := false
  config : Option Path := none
  /-- Colors are demanded. -/
  color : Bool := false
  /-- Colors are refused. -/
  noColor : Bool := false
  deriving DecidableEq, Repr

/-- What a command does. -/
inductive Task where
  | check (request : CheckRequest)
  | thresholds (label : Text) (entries : List Text)
  | formula (entry : Text) (desired worst : Option Text)
  | manual (output : Destination)
  | completion (shell : Shell) (output : Destination)
  deriving DecidableEq, Repr

namespace Task

/-- The one operand there must be. -/
def oneOperand : List Text → Except Misuse Text
  | [] => .error .operandMissing
  | [operand] => .ok operand
  | _ :: extra :: _ => .error (.operandUnexpected extra)

/-- The operands, of which there must be one or more. -/
def someOperands : List Text → Except Misuse (List Text)
  | [] => .error .operandMissing
  | operands => .ok operands

/-- Where the output goes that arguments ask for. -/
def output (arguments : Arguments) : Destination := .ofText (arguments.value? "--output")

def readCheck (arguments : Arguments) : Except Misuse Task := do
  let format ←
    match arguments.value? "--format" with
    | none => .ok ReportFormat.human
    | some name =>
      match ReportFormat.ofName? name with
      | some format => .ok format
      | none => .error (.invalidValue "--format" name)
  let paths ← someOperands arguments.operands
  return .check
    { paths := paths.map Path.parse
      format
      output := output arguments
      optionalFormula := arguments.has "--optional-formula"
      config := (arguments.value? "--config").map Path.parse
      color := arguments.has "--color"
      noColor := arguments.has "--no-color" }

def readThresholds (arguments : Arguments) : Except Misuse Task := do
  let entries ← someOperands arguments.operands
  return .thresholds ((arguments.value? "--label").getD "threshold") entries

def readFormula (arguments : Arguments) : Except Misuse Task := do
  let formula ← oneOperand arguments.operands
  return .formula formula (arguments.value? "--desired") (arguments.value? "--worst")

def readManual (arguments : Arguments) : Except Misuse Task :=
  match arguments.operands with
  | [] => .ok (.manual (output arguments))
  | operand :: _ => .error (.operandUnexpected operand)

def readCompletion (arguments : Arguments) : Except Misuse Task := do
  let name ← oneOperand arguments.operands
  match Shell.ofName? name with
  | some shell => return .completion shell (output arguments)
  | none => .error (.invalidValue "SHELL" name)

/-- The commands, each with the reader of its arguments. -/
def readers : List (CommandSpec × (Arguments → Except Misuse Task)) :=
  [(Catalog.check, readCheck), (Catalog.completion, readCompletion),
   (Catalog.man, readManual), (Catalog.thresholds, readThresholds),
   (Catalog.formula, readFormula)]

end Task

/-- What a command line asks for. -/
inductive Request where
  | version
  | help
  | perform (quiet verbose : Bool) (task : Task)
  deriving DecidableEq, Repr

namespace Request

/-- The option that asks for help. -/
def helpOption : OptionSpec := .switch ["--help"]

/-- Options for which the program cannot be asked outside a shell. -/
def shellOptions : List Text := ["--install-completion", "--show-completion"]

/-- The request for a command, of the arguments that start with its
name. -/
def ofCommand (quiet verbose : Bool) : List Text → Except Misuse Request
  | [] => .error .commandMissing
  | name :: rest =>
    match Task.readers.find? (·.1.name == name) with
    | none => .error (.unknownCommand name)
    | some (command, reader) => do
      let arguments ← Arguments.read (helpOption :: command.options) true rest
      if arguments.has helpOption.key then return .help
      else return .perform quiet verbose (← reader arguments)

/-- The request of the arguments of the program. -/
def ofArguments (args : List Text) : Except Misuse Request := do
  let arguments ← Arguments.read (helpOption :: Catalog.programOptions) false args
  if arguments.has "--version" then return .version
  else if arguments.has helpOption.key then return .help
  else
    match shellOptions.find? fun flag => arguments.has flag with
    | some flag => .error (.unavailable flag)
    | none =>
      ofCommand (arguments.has "--quiet") (arguments.has "--verbose") arguments.operands

end Request
end MetricAudit.Command
