/-
MetricAudit.Command.Catalog — the commands and options there are.

An option is written with one of its flags and takes a value or none.
Options stand before the command, for the program as a whole, or after
it. The manual, the completion scripts and the reader of arguments all
go by this catalog.
-/
import MetricAudit.Program

namespace MetricAudit.Command

/-- An option. Its flags are those by which it is given. -/
structure OptionSpec where
  flags : List Text
  takesValue : Bool
  deriving DecidableEq, Repr

/-- A command, as the manual presents it. -/
structure CommandSpec where
  name : Text
  summary : Text
  options : List OptionSpec
  deriving DecidableEq, Repr

namespace OptionSpec

/-- An option without a value. -/
def switch (flags : List Text) : OptionSpec := ⟨flags, false⟩

/-- An option with a value. -/
def valued (flag : Text) : OptionSpec := ⟨[flag], true⟩

/-- The flag that an option is known by. -/
def key (o : OptionSpec) : Text := o.flags.headD []

end OptionSpec

namespace Catalog

/-- The options of the program. -/
def programOptions : List OptionSpec :=
  [.switch ["--version"],
   .switch ["--quiet", "-q"],
   .switch ["--verbose", "-v"],
   .switch ["--install-completion"],
   .switch ["--show-completion"]]

/-- The command that checks metrics. -/
def check : CommandSpec :=
  { name := "check"
    summary := "Validate metric definitions: formula, thresholds and declared..."
    options :=
      [.valued "--format", .valued "--output", .switch ["--optional-formula"],
       .valued "--config", .switch ["--color"], .switch ["--no-color"]] }

/-- The command that prints completion scripts. -/
def completion : CommandSpec :=
  { name := "completion"
    summary := "Generate shell completion scripts."
    options := [.valued "--output"] }

/-- The command that prints the manual. -/
def man : CommandSpec :=
  { name := "man"
    summary := "Print a plain-text manual page."
    options := [.valued "--output"] }

/-- The command that reads thresholds. -/
def thresholds : CommandSpec :=
  { name := "threshold"
    summary := "Parse and validate threshold expressions."
    options := [.valued "--label"] }

/-- The command that lists the variables of a formula. -/
def formula : CommandSpec :=
  { name := "variables"
    summary := "List the variables of a formula and which ones are fixed by the..."
    options := [.valued "--desired", .valued "--worst"] }

/-- The commands, by their names. -/
def commands : List CommandSpec := [check, completion, man, thresholds, formula]

/-- The flags of options, in order. -/
def flagsOf (options : List OptionSpec) : List Text :=
  Text.sortedDistinct (options.flatMap OptionSpec.flags)

/-- All flags, in order. -/
def flags : List Text :=
  flagsOf (programOptions ++ commands.flatMap CommandSpec.options)

end Catalog
end MetricAudit.Command
