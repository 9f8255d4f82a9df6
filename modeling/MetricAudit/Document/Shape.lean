/-
MetricAudit.Document.Shape — what shape a document must have.

`Shape.faults` lists the faults of a value that should have a shape, each
with the location of the part it concerns; a value has the shape when
there is none. Shapes are put together from those of single values by
lists, and by tables with named fields.

A document has one of two shapes, and only one: it is a metric, or a
collection of metrics. A document with neither is reported by the one
fault of both that says most: the deepest, of equally deep ones that with
the smallest location, and there one about a value of the right type.
Where no single fault is first, the document as a whole is reported.

`Shape.described` is a shape as a table that describes it, as it is
published and as a message shows it.
-/
import MetricAudit.Data.Value

namespace MetricAudit.Document

/-- A step from a value to one of its parts. -/
inductive Step where
  | name (name : Text)
  | index (index : Nat)
  deriving DecidableEq, Repr

/-- The way from a document to one of its parts. -/
abbrev Location := List Step

/-- A step as it is shown. -/
def Step.text : Step → Text
  | .name n => n
  | .index i => Text.ofNat i

/-- A location as it is shown. -/
def Location.text (location : Location) : Text :=
  match Text.join "/" (location.map Step.text) with
  | [] => "<root>"
  | text => text

/-- What is wrong with a value. -/
inductive Complaint where
  | wrongType (value : Data) (types : List Text)
  | missingField (name : Text)
  | unexpectedFields (names : List Text)
  | noShape (value : Data)
  /-- The value has several of the given shapes, of these descriptions. -/
  | severalShapes (value : Data) (descriptions : List Table)

def Complaint.message : Complaint → Text
  | .wrongType value types =>
    value.shown ++ " is not of type " ++ Text.join ", " (types.map Text.quoted)
  | .missingField name => Text.quoted name ++ " is a required property"
  | .unexpectedFields names =>
    let verb : Text := if names.length = 1 then "was" else "were"
    "Additional properties are not allowed (" ++ Text.join ", " (names.map Text.quoted)
      ++ ' ' :: verb ++ " unexpected)"
  | .noShape value => value.shown ++ " is not valid under any of the given schemas"
  | .severalShapes value descriptions =>
    value.shown ++ " is valid under each of "
      ++ Text.join ", " (descriptions.map fun description => (Data.table description).shown)

/-- A complaint about the part at a location. -/
structure Fault where
  location : Location
  complaint : Complaint

/-- The shape of a value. -/
inductive Shape where
  | text
  /-- A text, or nothing. -/
  | optionalText
  | truth
  | number
  | list (item : Shape)
  /-- A table with the fields `required`. Those of its entries that are
  named as one of `fields` have its shape; of a closed table these are
  all. -/
  | record (fields : List (Text × Shape)) (required : List Text) (closed : Bool)
  /-- A table whose values have a shape, whatever their names. -/
  | tableOf (value : Shape)
  /-- A shape that is published under a name. -/
  | named (name : Text) (shape : Shape)

namespace Shape

/-- The types of the values of a shape, as messages name them. -/
def types : Shape → List Text
  | .text => ["string"]
  | .optionalText => ["string", "null"]
  | .truth => ["boolean"]
  | .number => ["number"]
  | .list _ => ["array"]
  | .record .. => ["object"]
  | .tableOf _ => ["object"]
  | .named _ shape => shape.types

/-- A complaint about the value itself. -/
def here (complaint : Complaint) : List Fault := [⟨[], complaint⟩]

/-- Faults of a part, seen from the whole. -/
def within (step : Step) (faults : List Fault) : List Fault :=
  faults.map fun f => { f with location := step :: f.location }

/-- The faults of the items of a list from a position on. -/
def itemFaults (faults : Data → List Fault) (position : Nat) : List Data → List Fault
  | [] => []
  | value :: values =>
    within (.index position) (faults value) ++ itemFaults faults (position + 1) values

/-- The faults of the values of a table. -/
def valueFaults (faults : Data → List Fault) (entries : Table) : List Fault :=
  entries.flatMap fun (name, value) => within (.name name) (faults value)

/-- The required fields that a table lacks. -/
def missing (required : List Text) (entries : Table) : List Fault :=
  (required.filter fun name => (entries.get? name).isNone).flatMap fun name =>
    here (.missingField name)

/-- The names of a table that are not those of fields. -/
def unexpected (fields : List Text) (entries : Table) : List Fault :=
  match Text.sorted (entries.names.filter fun name => !fields.contains name) with
  | [] => []
  | names => here (.unexpectedFields names)

mutual

/-- The faults of a value that should have a shape. -/
def faults : Shape → Data → List Fault
  | .text, value =>
    match value with
    | .text _ => []
    | _ => here (.wrongType value (types .text))
  | .optionalText, value =>
    match value with
    | .text _ => []
    | .nothing => []
    | _ => here (.wrongType value (types .optionalText))
  | .truth, value =>
    match value with
    | .bool _ => []
    | _ => here (.wrongType value (types .truth))
  | .number, value =>
    match value with
    | .integer _ => []
    | .real _ => []
    | _ => here (.wrongType value (types .number))
  | .list item, value =>
    match value with
    | .list values => itemFaults (faults item) 0 values
    | _ => here (.wrongType value (types (.list item)))
  | .record fields required closed, value =>
    match value with
    | .table entries =>
      fieldFaults fields entries ++ missing required entries
        ++ if closed then unexpected (fields.map (·.1)) entries else []
    | _ => here (.wrongType value (types (.record fields required closed)))
  | .tableOf shape, value =>
    match value with
    | .table entries => valueFaults (faults shape) entries
    | _ => here (.wrongType value (types (.tableOf shape)))
  | .named _ shape, value => faults shape value

/-- The faults of the entries of a table that fields name. -/
def fieldFaults : List (Text × Shape) → Table → List Fault
  | [], _ => []
  | (name, shape) :: fields, entries =>
    (match entries.get? name with
     | some value => within (.name name) (faults shape value)
     | none => []) ++ fieldFaults fields entries

end

/-! ## Descriptions -/

/-- The types of a shape: one alone, or a list of several. -/
def typeData (shape : Shape) : Data :=
  match shape.types with
  | [type] => .text type
  | types => .list (types.map .text)

mutual

/-- A shape as a table that describes it. -/
def described : Shape → Table
  | .named name _ => [("$ref", .text ("#/$defs/" ++ name))]
  | .list item =>
    [("type", typeData (.list item)), ("items", .table item.described)]
  | .record fields required closed =>
    let extra : Table := if closed then [("additionalProperties", .bool false)] else []
    ("type", typeData (.record fields required closed))
      :: ("properties", .table (describedFields fields))
      :: ("required", .list (required.map .text)) :: extra
  | .tableOf value =>
    [("type", typeData (.tableOf value)), ("additionalProperties", .table value.described)]
  | shape => [("type", typeData shape)]

def describedFields : List (Text × Shape) → Table
  | [] => []
  | (name, shape) :: fields => (name, .table shape.described) :: describedFields fields

end

/-- A name makes no difference to what has a shape. -/
theorem faults_named (name : Text) (shape : Shape) :
    faults (.named name shape) = faults shape := by
  funext value
  rw [faults]

end Shape

/-- The shape of a declared variable. -/
def variableShape : Shape :=
  .named "variable"
    (.record [("symbol", .text), ("description", .text)] ["symbol"] true)

/-- The shape of an optional text of a metric. -/
def optionalTextShape : Shape := .named "optionalText" .optionalText

/-- The shape of a metric. -/
def metricShape : Shape :=
  .named "metric"
    (.record
      [("name", .text),
       ("code", optionalTextShape),
       ("description", optionalTextShape),
       ("formula", optionalTextShape),
       ("desired_threshold", optionalTextShape),
       ("worst_case", optionalTextShape),
       ("variables", .list variableShape)]
      ["name"] true)

/-- The shape of a collection of metrics. -/
def collectionShape : Shape :=
  .record [("metrics", .list metricShape)] ["metrics"] true

/-! ## The fault to report -/

/-- The order of steps: names by their characters, before positions by
their number. -/
def Step.compare : Step → Step → Ordering
  | .name a, .name b => if a < b then .lt else if a = b then .eq else .gt
  | .name _, .index _ => .lt
  | .index _, .name _ => .gt
  | .index i, .index j => Ord.compare i j

/-- The order of locations: the first different step decides. -/
def Location.compare : Location → Location → Ordering
  | [], [] => .eq
  | [], _ :: _ => .lt
  | _ :: _, [] => .gt
  | a :: as, b :: bs => (Step.compare a b).then (Location.compare as bs)

/-- Whether the value complained about has the right type. -/
def Complaint.typeFits : Complaint → Bool
  | .wrongType .. => false
  | _ => true

/-- The order of faults by how much they say: deeper ones first, then
by location, then those about a value of the right type. -/
def Fault.compare (f g : Fault) : Ordering :=
  (Ord.compare g.location.length f.location.length).then
    ((Location.compare f.location g.location).then
      (Ord.compare f.complaint.typeFits.toNat g.complaint.typeFits.toNat).swap)

/-- The first of some faults. -/
def Fault.first (f : Fault) (faults : List Fault) : Fault :=
  faults.foldl (fun best g => if Fault.compare g best = .lt then g else best) f

/-- The fault to report of a document without a shape: the first of all,
if it is the only first. -/
def reported (document : Data) (faults : List Fault) : Fault :=
  let whole : Fault := ⟨[], .noShape document⟩
  match faults with
  | [] => whole
  | f :: rest =>
    let best := f.first rest
    if (faults.filter fun g => Fault.compare g best = .eq).length = 1 then best else whole

/-- The fault of a document; none where it has one of the two shapes. -/
def fault? (document : Data) : Option Fault :=
  match metricShape.faults document, collectionShape.faults document with
  | [], [] =>
    some ⟨[], .severalShapes document [collectionShape.described, metricShape.described]⟩
  | [], _ => none
  | _, [] => none
  | fs, gs => some (reported document (fs ++ gs))

end MetricAudit.Document
