/-
MetricAudit.Command.Arguments — options and operands.

An argument that starts with a hyphen and has more to it gives options:
after two hyphens one long flag, whose value follows an equals sign or is
the next argument; after one hyphen a letter for each short flag. Two
hyphens alone end the options. Every other argument is an operand; where
operands end the options too, the arguments from the first operand on are
left as they are.
-/
import MetricAudit.Command.Catalog

namespace MetricAudit.Command

/-- Why arguments are refused. -/
inductive Misuse where
  | unknownFlag (flag : Text)
  | valueMissing (flag : Text)
  | valueUnexpected (flag : Text)
  | commandMissing
  | unknownCommand (name : Text)
  | operandMissing
  | operandUnexpected (operand : Text)
  | invalidValue (flag value : Text)
  /-- An option that only an interactive shell can serve. -/
  | unavailable (flag : Text)
  deriving DecidableEq, Repr

def Misuse.message : Misuse → Text
  | .unknownFlag flag => "No such option: " ++ flag
  | .valueMissing flag => "Option " ++ flag ++ " requires an argument."
  | .valueUnexpected flag => "Option " ++ flag ++ " does not take a value."
  | .commandMissing => "Missing command."
  | .unknownCommand name => "No such command: " ++ name
  | .operandMissing => "Missing argument."
  | .operandUnexpected operand => "Got unexpected extra argument: " ++ operand
  | .invalidValue flag value => "Invalid value for " ++ flag ++ ": " ++ value
  | .unavailable flag => "Option " ++ flag ++ " needs an interactive shell."

/-- Arguments that have been told apart: the options with their values,
in the order in which they are given, and the operands. An option without
a value has the empty one. -/
structure Arguments where
  options : List (Text × Text) := []
  operands : List Text := []
  deriving DecidableEq, Repr

namespace Arguments

/-- Put an option before the others. -/
def addOption (o : OptionSpec) (value : Text) (arguments : Arguments) : Arguments :=
  { arguments with options := (o.key, value) :: arguments.options }

/-- Put an operand before the others. -/
def addOperand (operand : Text) (arguments : Arguments) : Arguments :=
  { arguments with operands := operand :: arguments.operands }

/-- Whether an option is given. -/
def has (arguments : Arguments) (flag : Text) : Bool :=
  arguments.options.any (·.1 == flag)

/-- The value of an option: the last one given. -/
def value? (arguments : Arguments) (flag : Text) : Option Text :=
  (arguments.options.reverse.find? (·.1 == flag)).map (·.2)

/-- The option with a flag. -/
def option? (specs : List OptionSpec) (flag : Text) : Option OptionSpec :=
  specs.find? (·.flags.contains flag)

/-- A long flag and the value after its equals sign. -/
def splitFlag (argument : Text) : Text × Option Text :=
  match argument.dropWhile (· != '=') with
  | [] => (argument, none)
  | _ :: value => (argument.takeWhile (· != '='), some value)

/-- The options that letters after one hyphen give. -/
def readShort (specs : List OptionSpec) : Text → Except Misuse (List (Text × Text))
  | [] => .ok []
  | letter :: letters =>
    match option? specs ['-', letter] with
    | none => .error (.unknownFlag ['-', letter])
    | some o => return (o.key, []) :: (← readShort specs letters)

/-- Read arguments. `mixed` tells whether options may follow operands. -/
def read (specs : List OptionSpec) (mixed : Bool) : List Text → Except Misuse Arguments
  | [] => .ok {}
  | ['-', '-'] :: rest => .ok { operands := rest }
  | ('-' :: '-' :: long) :: rest =>
    let (flag, value) := splitFlag ('-' :: '-' :: long)
    match option? specs flag, value, rest with
    | none, _, _ => .error (.unknownFlag flag)
    | some o, none, rest =>
      if o.takesValue then
        match rest with
        | [] => .error (.valueMissing flag)
        | next :: rest => (read specs mixed rest).map (addOption o next)
      else (read specs mixed rest).map (addOption o [])
    | some o, some value, rest =>
      if o.takesValue then (read specs mixed rest).map (addOption o value)
      else .error (.valueUnexpected flag)
  | ('-' :: letter :: letters) :: rest => do
    let given ← readShort specs (letter :: letters)
    let arguments ← read specs mixed rest
    return { arguments with options := given ++ arguments.options }
  | operand :: rest =>
    if mixed then (read specs mixed rest).map (addOperand operand)
    else .ok { operands := operand :: rest }

end Arguments
end MetricAudit.Command
