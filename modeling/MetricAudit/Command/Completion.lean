/-
MetricAudit.Command.Completion — completion of command lines.

For each of three shells there is a script that, once the shell has read
it, completes the arguments of the program. A line that lists all flags
stands before it.
-/
import MetricAudit.Command.Catalog
import MetricAudit.Text.Quoted

namespace MetricAudit.Command

/-- The shells with completion. -/
inductive Shell where
  | bash
  | zsh
  | fish
  deriving DecidableEq, Repr

namespace Shell

def name : Shell → Text
  | .bash => "bash"
  | .zsh => "zsh"
  | .fish => "fish"

def all : List Shell := [.bash, .zsh, .fish]

/-- The shell of a name. -/
def ofName? (name : Text) : Option Shell := all.find? (·.name == name)

/-- Why a name is refused. -/
def unknownMessage (name : Text) : Text := Text.quoted name ++ " is not a valid ShellName"

end Shell

namespace Completion

/-- Lines for bash. -/
def bashScript : List String :=
  ["_metricgate_completion() \x7b",
   "    local IFS=$'\\n'",
   "    local response",
   "",
   "    response=$(env COMP_WORDS=\"$\x7bCOMP_WORDS[*]\x7d\" COMP_CWORD=$COMP_CWORD _METRICGATE_COMPLETE=bash_complete $1)",
   "",
   "    for completion in $response; do",
   "        IFS=',' read type value <<< \"$completion\"",
   "",
   "        if [[ $type == 'dir' ]]; then",
   "            COMPREPLY=()",
   "            compopt -o dirnames",
   "        elif [[ $type == 'file' ]]; then",
   "            COMPREPLY=()",
   "            compopt -o default",
   "        elif [[ $type == 'plain' ]]; then",
   "            COMPREPLY+=($value)",
   "        fi",
   "    done",
   "",
   "    return 0",
   "\x7d",
   "",
   "_metricgate_completion_setup() \x7b",
   "    complete -o nosort -F _metricgate_completion metricgate",
   "\x7d",
   "",
   "_metricgate_completion_setup;"]

/-- Lines for zsh. -/
def zshScript : List String :=
  ["#compdef metricgate",
   "",
   "_metricgate_completion() \x7b",
   "    local -a completions",
   "    local -a completions_with_descriptions",
   "    local -a response",
   "    (( ! $+commands[metricgate] )) && return 1",
   "",
   "    response=(\"$\x7b(@f)$(env COMP_WORDS=\"$\x7bwords[*]\x7d\" COMP_CWORD=$((CURRENT-1)) _METRICGATE_COMPLETE=zsh_complete metricgate)\x7d\")",
   "",
   "    for type key descr in $\x7bresponse\x7d; do",
   "        if [[ \"$type\" == \"plain\" ]]; then",
   "            if [[ \"$descr\" == \"_\" ]]; then",
   "                completions+=(\"$key\")",
   "            else",
   "                completions_with_descriptions+=(\"$key\":\"$descr\")",
   "            fi",
   "        elif [[ \"$type\" == \"dir\" ]]; then",
   "            _path_files -/",
   "        elif [[ \"$type\" == \"file\" ]]; then",
   "            _path_files -f",
   "        fi",
   "    done",
   "",
   "    if [ -n \"$completions_with_descriptions\" ]; then",
   "        _describe -V unsorted completions_with_descriptions -U",
   "    fi",
   "",
   "    if [ -n \"$completions\" ]; then",
   "        compadd -U -V unsorted -a completions",
   "    fi",
   "\x7d",
   "",
   "if [[ $zsh_eval_context[-1] == loadautofunc ]]; then",
   "    # autoload from fpath, call function directly",
   "    _metricgate_completion \"$@\"",
   "else",
   "    # eval/source/. command, register function for later",
   "    compdef _metricgate_completion metricgate",
   "fi"]

/-- Lines for fish. -/
def fishScript : List String :=
  ["function _metricgate_completion;",
   "    set -l response (env _METRICGATE_COMPLETE=fish_complete COMP_WORDS=(commandline -cp) COMP_CWORD=(commandline -t) metricgate);",
   "",
   "    for completion in $response;",
   "        set -l metadata (string split \",\" $completion);",
   "",
   "        if test $metadata[1] = \"dir\";",
   "            __fish_complete_directories $metadata[2];",
   "        else if test $metadata[1] = \"file\";",
   "            __fish_complete_path $metadata[2];",
   "        else if test $metadata[1] = \"plain\";",
   "            echo $metadata[2];",
   "        end;",
   "    end;",
   "end;",
   "",
   "complete --no-files --command metricgate --arguments \"(_metricgate_completion)\";"]

/-- The lines for a shell. -/
def script : Shell → List String
  | .bash => bashScript
  | .zsh => zshScript
  | .fish => fishScript

/-- The line that lists all flags. -/
def flagsLine : Text :=
  "# " ++ Program.name ++ " options: " ++ Text.join " " Catalog.flags

/-- What the shell reads; its last line is ended. -/
def text (shell : Shell) : Text :=
  Text.join "\n" (flagsLine :: (script shell).map String.toList) ++ ['\n']

end Completion
end MetricAudit.Command
