/-
MetricAudit.Command.Manual — the manual page of the program.
-/
import MetricAudit.Command.Catalog
import MetricAudit.Command.ExitStatus

namespace MetricAudit.Command.Manual

/-- A title with a line below it. -/
def heading (title : String) : List Text :=
  [title, List.replicate title.toList.length '-']

/-- What the program and its options do. -/
def description : List String :=
  ["Usage: metricgate [OPTIONS]",
   "",
   "  Validate metric formulas, thresholds and declared variables.",
   "",
   "Options:",
   "  --version             Show version and exit",
   "  -q, --quiet           Emit only error logs",
   "  -v, --verbose         Emit diagnostic logging",
   "  --install-completion  Install completion for the current shell.",
   "  --show-completion     Show completion for the current shell, to copy it or",
   "                        customize the installation.",
   "  --help                Show this message and exit."]

/-- A command with its options. -/
def entry (command : CommandSpec) : List Text :=
  [command.name ++ "  " ++ command.summary,
   "    options: " ++ Text.join " " (Catalog.flagsOf command.options)]

/-- A way in which a run can end. -/
def statusLine (status : ExitStatus) : Text :=
  let code := Text.ofNat status.code
  let gap : Text := if code.length < 2 then "  " else " "
  code ++ gap ++ status.meaning

/-- The lines of the page. -/
def lines : List Text :=
  (Program.name.map Char.toUpper ++ "(1)")
    :: heading "NAME" ++ [Program.name ++ " - metric formula and threshold validator", []]
    ++ heading "SYNOPSIS" ++ [Program.name ++ " [OPTIONS] COMMAND [ARGS]...", []]
    ++ heading "DESCRIPTION" ++ description.map String.toList ++ [[]]
    ++ heading "COMMANDS" ++ Catalog.commands.flatMap entry ++ [[]]
    ++ heading "EXIT STATUS" ++ ExitStatus.all.map statusLine

/-- The page; its last line is ended. -/
def text : Text := Text.join "\n" lines ++ ['\n']

end MetricAudit.Command.Manual
