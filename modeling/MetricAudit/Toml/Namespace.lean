/-
MetricAudit.Toml.Namespace — tables within tables.

A document is built by opening tables and giving names values in them.
`inside` changes the table behind a key; tables on the way that are not
there yet are created, and a list on the way stands for its last table.

What may be opened or changed is kept by two sets of keys beside the
data: the keys of tables that are declared, which may not be declared
again, and the keys of inline values, which are frozen with all that is
inside them.
-/
import MetricAudit.Data.Value
import MetricAudit.Toml.Fault

namespace MetricAudit.Toml

/-- Change the table behind a key. A list is entered only where
`throughLists` says so. -/
def inside (throughLists : Bool) (change : Table → Except Complaint Table) :
    Key → Table → Except Complaint Table
  | [], t => change t
  | k :: ks, t => do
    match t.get? k with
    | none => return t.set k (.table (← inside throughLists change ks []))
    | some (.table inner) =>
      return t.set k (.table (← inside throughLists change ks inner))
    | some (.list items) =>
      match throughLists, items.getLast? with
      | true, some (.table inner) =>
        let inner ← inside throughLists change ks inner
        return t.set k (.list (items.dropLast ++ [.table inner]))
      | _, _ => .error .overwritten
    | some _ => .error .overwritten

/-- Give a new name a value; where the name is taken, complain. -/
def define (name : Text) (value : Data) (taken : Complaint) (t : Table) :
    Except Complaint Table :=
  match t.get? name with
  | none => .ok (t.set name value)
  | some _ => .error taken

/-- Add an empty table to the list of a name. -/
def appendTable (name : Text) (t : Table) : Except Complaint Table :=
  match t.get? name with
  | none => .ok (t.set name (.list [.table []]))
  | some (.list items) => .ok (t.set name (.list (items ++ [.table []])))
  | some _ => .error .overwritten

/-- Give the last part of a key a value in the table of the others. -/
def defineAt (throughLists : Bool) (taken : Text → Complaint) (key : Key) (value : Data)
    (t : Table) : Except Complaint Table :=
  match key.getLast? with
  | none => .ok t
  | some name =>
    inside throughLists (define name value (taken name)) key.dropLast t

/-- A value whose inside may not be changed later. -/
def isContainer : Data → Bool
  | .list _ => true
  | .table _ => true
  | _ => false

/-- Whether a set of frozen keys freezes a key: itself or one it is
inside. -/
def freezes (frozen : List Key) (key : Key) : Bool :=
  frozen.any fun k => k.isPrefixOf key

/-- A document in the making. -/
structure Draft where
  data : Table := []
  /-- The table that pairs are given to. -/
  header : Key := []
  /-- The keys of inline values. -/
  frozen : List Key := []
  /-- The keys of declared tables. -/
  declared : List Key := []
  /-- The keys of tables that pairs have opened, which count as declared
  from the next header on. -/
  opened : List Key := []

namespace Draft

/-- The opened tables count as declared. -/
def settle (d : Draft) : Draft :=
  { d with declared := d.opened ++ d.declared, opened := [] }

/-- Declare a table. -/
def openTable (d : Draft) (key : Key) : Except Complaint Draft := do
  if d.declared.contains key || freezes d.frozen key then
    throw (.declaredTwice key)
  let data ← inside true (fun t => .ok t) key d.data
  return { d with data, header := key, declared := key :: d.declared }

/-- Declare a further table of a list. What was known of the list's
former table does not hold of the new one. -/
def openItem (d : Draft) (key : Key) : Except Complaint Draft := do
  if freezes d.frozen key then throw (.immutable key)
  let outside (k : Key) : Bool := !key.isPrefixOf k
  let frozen := d.frozen.filter outside
  let declared := key :: d.declared.filter outside
  match key.getLast? with
  | none => return d
  | some name =>
    let data ← inside true (appendTable name) key.dropLast d.data
    return { d with data, header := key, frozen, declared }

/-- Give a key a value under the header. The tables that the key goes
through must not be declared, and become opened. -/
def addPair (d : Draft) (key : Key) (value : Data) : Except Complaint Draft := do
  let through := (List.range (key.length - 1)).map fun i => d.header ++ key.take (i + 1)
  match through.find? d.declared.contains with
  | some k => throw (.redefined k)
  | none => pure ()
  let parent := d.header ++ key.dropLast
  if freezes d.frozen parent then throw (.immutable parent)
  let data ← defineAt true (fun _ => .overwritten) (d.header ++ key) value d.data
  let frozen := if isContainer value then (d.header ++ key) :: d.frozen else d.frozen
  return { d with data, frozen, opened := through ++ d.opened }

end Draft
end MetricAudit.Toml
