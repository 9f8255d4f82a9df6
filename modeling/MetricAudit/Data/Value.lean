/-
MetricAudit.Data.Value — the data that documents hold.

Documents are read into one type of data: nothing, truth values,
integers, real numbers, texts, moments, lists, and tables. A table is a
list of named entries, in the order in which their names first appear;
the readers give no name twice.

`Table.get?` and `Table.set` read and write one entry:
`Table.get?_set_self` and `Table.get?_set_of_ne` say that writing a name
changes what is read of that name only.

`Data.shown` is the form in which messages show a value, and
`Data.typeName` how they name its type.
-/
import MetricAudit.Data.Moment
import MetricAudit.Number.Written
import MetricAudit.Text.Quoted

namespace MetricAudit

/-- A value in a document. -/
inductive Data where
  | nothing
  | bool (b : Bool)
  | integer (n : Int)
  | real (x : Binary64)
  | text (s : Text)
  | moment (m : Moment)
  | list (items : List Data)
  | table (entries : List (Text × Data))

/-- The entries of a table, in order. -/
abbrev Table := List (Text × Data)

namespace Table

/-- The value of a name. -/
def get? (t : Table) (name : Text) : Option Data :=
  (t.find? fun entry => entry.1 == name).map (·.2)

/-- Give a name a value, in its place where the table has it and at the
end elsewhere. -/
def set (name : Text) (value : Data) : Table → Table
  | [] => [(name, value)]
  | (k, v) :: rest =>
    if k = name then (k, value) :: rest else (k, v) :: set name value rest

/-- A name that is given a value has it. -/
theorem get?_set_self (t : Table) (name : Text) (value : Data) :
    (t.set name value).get? name = some value := by
  induction t with
  | nil => simp [set, get?]
  | cons entry rest ih =>
    rw [set]
    split
    · rename_i h; simp [get?, h]
    · rename_i h; simpa [get?, h] using ih

/-- Other names keep their values. -/
theorem get?_set_of_ne (t : Table) {name other : Text} (value : Data) (h : other ≠ name) :
    (t.set name value).get? other = t.get? other := by
  induction t with
  | nil => simp [set, get?, Ne.symm h]
  | cons entry rest ih =>
    rw [set]
    split
    · rename_i hk; subst hk; simp [get?, Ne.symm h]
    · by_cases hk : entry.1 = other
      · simp [get?, hk]
      · simpa [get?, hk] using ih

/-- The names of a table. -/
def names (t : Table) : List Text := t.map (·.1)

end Table

namespace Data

instance : Inhabited Data := ⟨.nothing⟩

/-- The name of the type of a value. -/
def typeName : Data → Text
  | .nothing => "NoneType"
  | .bool _ => "bool"
  | .integer _ => "int"
  | .real _ => "float"
  | .text _ => "str"
  | .moment (.date _) => "date"
  | .moment (.time _) => "time"
  | .moment (.dateTime ..) => "datetime"
  | .list _ => "list"
  | .table _ => "dict"

mutual

/-- A value as messages show it. -/
def shown : Data → Text
  | .nothing => "None"
  | .bool true => "True"
  | .bool false => "False"
  | .integer n => Text.ofInt n
  | .real x => x.shown
  | .text s => Text.quoted s
  | .moment m => m.shown
  | .list items => '[' :: (Text.join ", " (shownItems items) ++ "]")
  | .table entries => '\x7b' :: (Text.join ", " (shownEntries entries) ++ ['\x7d'])

def shownItems : List Data → List Text
  | [] => []
  | item :: items => shown item :: shownItems items

def shownEntries : List (Text × Data) → List Text
  | [] => []
  | (name, value) :: entries =>
    (Text.quoted name ++ ": " ++ shown value) :: shownEntries entries

end

mutual

/-- The greatest number of digits of an integer in a value. -/
def integerDigits : Data → Nat
  | .integer n => (Text.ofNat n.natAbs).length
  | .list items => integerDigitsItems items
  | .table entries => integerDigitsEntries entries
  | _ => 0

def integerDigitsItems : List Data → Nat
  | [] => 0
  | item :: items => max (integerDigits item) (integerDigitsItems items)

def integerDigitsEntries : List (Text × Data) → Nat
  | [] => 0
  | (_, value) :: entries => max (integerDigits value) (integerDigitsEntries entries)

end

mutual

/-- How deep lists and tables nest in a value. -/
def depth : Data → Nat
  | .list items => depthItems items + 1
  | .table entries => depthEntries entries + 1
  | _ => 0

def depthItems : List Data → Nat
  | [] => 0
  | item :: items => max (depth item) (depthItems items)

def depthEntries : List (Text × Data) → Nat
  | [] => 0
  | (_, value) :: entries => max (depth value) (depthEntries entries)

end

end Data
end MetricAudit
