/-
MetricAudit.Data.NestingLimit — how deep the data of documents may nest.

Lists and tables in each other are read and shown as long as there is room
for them; where there is none, a task gives up, and `Task.message` says
which one it was. How much room there is depends on the task, on what is
nested and on what has been called before, so it is no constant of the
program: `NestingLimits` has one limit for each task, and whoever reads or
shows data is given them.

The levels that are open around a value are counted. A list or a table of
a JSON document is one level; a list of a TOML document counts as two, and
an inline table as three.
-/
import MetricAudit.Data.Value

namespace MetricAudit

namespace NestingLimit

/-- The levels that a list of a TOML document takes. -/
def listLevels : Nat := 2

/-- The levels that an inline table takes. -/
def tableLevels : Nat := 3

/-- What is done with nested data. -/
inductive Task where
  | readJsonList
  | readJsonTable
  | readJsonWord
  | readToml
  | showData
  deriving DecidableEq, Repr

/-- What there is to say of data that nest too deep for a task. -/
def Task.message (task : Task) : Text :=
  "maximum recursion depth exceeded" ++
    match task with
    | .readJsonList => " while decoding a JSON array from a unicode string"
    | .readJsonTable => " while decoding a JSON object from a unicode string"
    | .readJsonWord => " while calling a Python object"
    | .readToml => ""
    | .showData => " while getting the repr of an object"

/-- The limit of a reader: whether there is room for the value at the
front of a text, with so many levels around it. -/
abbrev Room := (levels : Nat) → Text → Bool

/-- So many levels can always be open. -/
def Room.Allows (room : Room) (levels : Nat) : Prop :=
  ∀ n s, n ≤ levels → room n s = true

theorem Room.Allows.mono {room : Room} {levels levels' : Nat} (h : room.Allows levels')
    (hle : levels ≤ levels') : room.Allows levels :=
  fun n s hn => h n s (Nat.le_trans hn hle)

/-- A fixed number of levels, of which a list and a table take so many
each. -/
def Room.ofLevels (most list table : Nat) : Room := fun levels s =>
  match s with
  | '[' :: _ => levels + list ≤ most
  | '\x7b' :: _ => levels + table ≤ most
  | _ => true

/-- A reader with a fixed number of levels has room while one of each kind
can still be opened. -/
theorem Room.allows_ofLevels {most list table levels : Nat} (hlist : levels + list ≤ most)
    (htable : levels + table ≤ most) : (Room.ofLevels most list table).Allows levels := by
  intro n s hn
  unfold Room.ofLevels
  split
  · exact decide_eq_true (by omega)
  · exact decide_eq_true (by omega)
  · rfl

end NestingLimit

/-- What there is room for. -/
structure NestingLimits where
  json : NestingLimit.Room
  toml : NestingLimit.Room
  /-- Whether a value can be shown in a message. -/
  shows : Data → Bool

/-- Data of so many levels can be read and shown. -/
structure NestingLimits.Allow (limits : NestingLimits) (levels : Nat) : Prop where
  json : limits.json.Allows levels
  toml : limits.toml.Allows levels
  shows : ∀ d : Data, d.depth ≤ levels → limits.shows d = true

/-- The room that a command finds which is run on its own. -/
def NestingLimits.usual : NestingLimits where
  json := .ofLevels 986 1 1
  toml := .ofLevels 986 NestingLimit.listLevels NestingLimit.tableLevels
  shows := fun d => d.depth ≤ 986

/-- There is room for many levels. -/
theorem NestingLimits.allow_usual : NestingLimits.usual.Allow 983 where
  json := NestingLimit.Room.allows_ofLevels (by decide) (by decide)
  toml := NestingLimit.Room.allows_ofLevels (by decide) (by decide)
  shows := fun d hd => decide_eq_true (show d.depth ≤ 986 by omega)

end MetricAudit
