/-
MetricAudit.Document.Schema — shapes as published schemas.

A schema says in JSON which documents are accepted. It is worked out from
the shapes that documents are checked against, so what is published and
what is checked cannot differ. A named shape is written as a reference to
its definition, and the definitions of all named shapes stand in one
table.

`published` lists the schemas: of files of metrics, and of reports on
them.
-/
import MetricAudit.Document.Shape
import MetricAudit.Json.Printer

namespace MetricAudit.Document

namespace Shape

mutual

/-- The descriptions of the named shapes in a shape. -/
def definitions : Shape → Table
  | .named name shape => (name, .table shape.described) :: definitions shape
  | .list item => definitions item
  | .record fields _ _ => fieldDefinitions fields
  | .tableOf value => definitions value
  | _ => []

def fieldDefinitions : List (Text × Shape) → Table
  | [] => []
  | (_, shape) :: fields => definitions shape ++ fieldDefinitions fields

end

end Shape

/-- A published schema. A document must have exactly one of the shapes
`alternatives`. -/
structure Schema where
  id : Text
  title : Text
  alternatives : List Shape

namespace Schema

/-- The dialect that schemas are written in. -/
def dialect : Text := "https://json-schema.org/draft/2020-12/schema"

/-- What a schema says of a document. -/
def body (schema : Schema) : Table :=
  match schema.alternatives with
  | [shape] => shape.described
  | shapes => [("oneOf", .list (shapes.map fun shape => .table shape.described))]

/-- The definitions that a schema refers to, each once. -/
def definitions (schema : Schema) : Table :=
  (schema.alternatives.flatMap Shape.definitions).foldl
    (fun table (name, value) => table.set name value) []

/-- A schema as a document. -/
def document (schema : Schema) : Data :=
  .table (("$schema", .text dialect) :: ("$id", .text schema.id)
    :: ("title", .text schema.title) :: ("$defs", .table schema.definitions)
    :: schema.body)

/-- A schema as JSON on one line. -/
def text (schema : Schema) : Text := Json.print .compact schema.document

end Schema

/-! ## The published schemas -/

/-- Files of metrics: one metric, or a collection. -/
def metricSchema : Schema :=
  { id := "urn:metricgate:metric:v1"
    title := "metricgate metric definitions"
    alternatives := [metricShape, collectionShape] }

/-- The shape of a verdict in a report. -/
def verdictShape : Shape :=
  .named "result"
    (.record [("valid", .truth), ("error", .text), ("warning", .text), ("success", .text)]
      ["valid"] true)

/-- The shape of a fixed variable in a report. -/
def fixedVariableShape : Shape :=
  .named "fixed"
    (.record [("symbol", .text), ("fixed_value", .number), ("reason", .text)]
      ["symbol", "fixed_value", "reason"] true)

/-- The shape of what a report says of one metric. -/
def metricReportShape : Shape :=
  .named "metric"
    (.record
      [("name", .text),
       ("valid", .truth),
       ("results", .tableOf verdictShape),
       ("variables", .list .text),
       ("denominators", .list .text),
       ("fixed_variables", .list fixedVariableShape),
       ("case", .text)]
      ["name", "valid", "results", "variables", "denominators", "fixed_variables"] true)

/-- The shape of a report. -/
def reportShape : Shape :=
  .record
    [("schema", .text),
     ("tool", .record [("name", .text), ("version", .text)] ["name", "version"] false),
     ("valid", .truth),
     ("metrics", .list metricReportShape)]
    ["schema", "tool", "valid", "metrics"] true

/-- Reports on metrics. -/
def reportSchema : Schema :=
  { id := "urn:metricgate:report:v1"
    title := "metricgate check report"
    alternatives := [reportShape] }

namespace Schema

/-- The published schemas by their names. -/
def published : List (Text × Schema) := [("metric", metricSchema), ("report", reportSchema)]

/-- The published schema of a name. -/
def find? (name : Text) : Option Schema :=
  (published.find? fun entry => entry.1 == name).map (·.2)

/-- Why there is no schema of a name. -/
def unsupportedMessage (name : Text) : Text :=
  "Unsupported schema: " ++ Text.quoted name ++ ". Available schemas: "
    ++ Text.join ", " (published.map (·.1))

end Schema
end MetricAudit.Document
