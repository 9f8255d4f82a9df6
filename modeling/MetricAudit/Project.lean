/-
MetricAudit.Project — the settings in a project file.

A project file is a TOML document; its settings stand in the table with
the name of the program in its table `tool`. A missing file gives the
default settings. So does one that cannot be opened or has no TOML
document in it, with a warning. A path that the system does not look up,
bytes that are no text, an integer with too many digits, values that nest
too deep and a `tool` that is no table stop the program; settings that
are refused are reported.
-/
import MetricAudit.Document.Load
import MetricAudit.Program

namespace MetricAudit.Project

/-- Why the settings cannot be had. -/
inductive Fault where
  | system (fault : SystemFault)
  | undecodable (fault : Text.Utf8.Fault)
  | tooManyDigits (digits : Nat)
  | tooDeep (task : NestingLimit.Task)
  | toolNotATable (value : Data)
  | notATable
  | refused (fault : Settings.Fault)

/-- The name of a type with that of its family. -/
def fullTypeName (value : Data) : Text :=
  match value with
  | .moment _ => "datetime." ++ value.typeName
  | _ => value.typeName

/-- A fault of the file that is shown as `path`, in words. -/
def Fault.message (path : Text) : Fault → Text
  | .system fault => fault.message path
  | .undecodable fault => fault.message
  | .tooManyDigits n => DigitLimit.message n
  | .tooDeep task => task.message
  | .toolNotATable value =>
    '\'' :: (fullTypeName value ++ "' object has no attribute 'get'")
  | .notATable => "[tool." ++ Program.name ++ "] in " ++ path ++ " must be a table"
  | .refused fault => fault.message

/-- The table of settings in a document. -/
def settingsTable (document : Table) : Except Fault Table :=
  match document.get? "tool" with
  | none => .ok []
  | some (.table tool) =>
    match Table.get? tool Program.name with
    | none => .ok []
    | some (.table entries) => .ok entries
    | some _ => .error .notATable
  | some value => .error (.toolNotATable value)

/-- Settings, with the remarks on how they were found. -/
structure Found where
  settings : Settings
  remarks : List Log.Remark

/-- The default settings, for the reason given. -/
def Found.unreadable (path reason : Text) : Found :=
  ⟨{}, [⟨.warning, "Failed to parse " ++ path ++ ": " ++ reason⟩]⟩

/-- The settings in a document. -/
def ofDocument (path : Text) (document : Table) :
    Except (Fault × List Log.Remark) Found :=
  match settingsTable document with
  | .error fault => .error (fault, [])
  | .ok entries =>
    let remarks : List Log.Remark :=
      if entries.isEmpty then []
      else [⟨.debug, "using " ++ Program.name ++ " settings from " ++ path⟩]
    match Settings.ofTable entries with
    | .ok settings => .ok ⟨settings, remarks⟩
    | .error fault => .error (.refused fault, remarks)

/-- The settings in the file at a path, shown as `path`. A fault comes
with the remarks before it. -/
def load (room : NestingLimit.Room) (tree : FileTree) (p : Path) (path : Text) :
    Except (Fault × List Log.Remark) Found :=
  match tree.find? p with
  | .error fault => .error (.system fault, [])
  | .ok none => .ok ⟨{}, []⟩
  | .ok (some .directory) => .ok (.unreadable path (SystemFault.isDirectory.message path))
  | .ok (some (.locked fault)) => .ok (.unreadable path (fault.message path))
  | .ok (some (.file bytes)) =>
    match Text.Utf8.decode bytes with
    | .error fault => .error (.undecodable fault, [])
    | .ok s =>
      match Document.ofToml room s with
      | .error (.malformed reason) => .ok (.unreadable path reason)
      | .error (.tooManyDigits n) => .error (.tooManyDigits n, [])
      | .error (.tooDeep task) => .error (.tooDeep task, [])
      | .ok document => ofDocument path document

end MetricAudit.Project
