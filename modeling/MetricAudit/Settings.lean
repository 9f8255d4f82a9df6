/-
MetricAudit.Settings — what a project may set.

A project sets whether every metric needs a formula, and the labels of
the two threshold fields. Settings are read from a table whose names may
be spelt with hyphens for underscores; a later entry for the same
setting wins. An unknown name or a value of the wrong type is refused, at
the first such entry.
-/
import MetricAudit.Data.Value

namespace MetricAudit

/-- The settings of a project. -/
structure Settings where
  formulaRequired : Bool := true
  desiredLabel : Text := "desired threshold"
  worstLabel : Text := "worst case"
  deriving DecidableEq, Repr

namespace Settings

/-- The settings there are. -/
inductive Setting where
  | formulaRequired
  | desiredLabel
  | worstLabel
  deriving DecidableEq, Repr

/-- The name of a setting in a table. -/
def Setting.name : Setting → Text
  | .formulaRequired => "formula_required"
  | .desiredLabel => "desired_label"
  | .worstLabel => "worst_label"

/-- The type a setting must have, as messages name it. -/
def Setting.typeName : Setting → Text
  | .formulaRequired => "bool"
  | .desiredLabel => "str"
  | .worstLabel => "str"

def Setting.all : List Setting := [.formulaRequired, .desiredLabel, .worstLabel]

/-- The setting that an entry names. -/
def Setting.ofKey? (key : Text) : Option Setting :=
  let name := key.map fun c => if c = '-' then '_' else c
  Setting.all.find? (·.name == name)

/-- Why a table is refused. -/
inductive Fault where
  | unknown (key : Text)
  | wrongType (key : Text) (setting : Setting) (value : Data)

def Fault.message : Fault → Text
  | .unknown key => "unknown metricgate setting: " ++ Text.quoted key
  | .wrongType key setting value =>
    "setting " ++ Text.quoted key ++ " must be of type " ++ setting.typeName
      ++ ", got " ++ value.typeName

/-- Give a setting a value of its type. -/
def assign? (settings : Settings) : Setting → Data → Option Settings
  | .formulaRequired, .bool b => some { settings with formulaRequired := b }
  | .desiredLabel, .text s => some { settings with desiredLabel := s }
  | .worstLabel, .text s => some { settings with worstLabel := s }
  | _, _ => none

/-- Take over one entry of a table. -/
def read (settings : Settings) (entry : Text × Data) : Except Fault Settings :=
  match Setting.ofKey? entry.1 with
  | none => .error (.unknown entry.1)
  | some setting =>
    match assign? settings setting entry.2 with
    | some settings => .ok settings
    | none => .error (.wrongType entry.1 setting entry.2)

/-- The settings of a table. -/
def ofTable (table : Table) : Except Fault Settings := table.foldlM read {}

end Settings
end MetricAudit
