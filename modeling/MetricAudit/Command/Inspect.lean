/-
MetricAudit.Command.Inspect — looking at thresholds and formulas.

`thresholds` tells for each entry how it is read or why it is not;
`formula` lists the variables of a formula, and says of each whether
the formula divides by it and which value the thresholds fix it to.
Lines are written without control sequences.
-/
import MetricAudit.Command.Outcome

namespace MetricAudit.Command.Inspect

/-! ## Thresholds -/

/-- A magnitude, with its kind. -/
def magnitude : Magnitude → Text
  | .scalar x => "scalar " ++ x.plain
  | .ratio n d => "ratio " ++ n.plain ++ '/' :: d.plain

/-- The parts of a threshold. -/
def threshold (t : Threshold) : Text :=
  let operator : Text :=
    match t.operator with
    | some o => o.sign
    | none => "none"
  let unit : Text :=
    match t.unit with
    | some u => u.token
    | none => "none"
  "operator=" ++ operator ++ " magnitude=" ++ magnitude t.magnitude ++ " unit=" ++ unit

/-- What there is to say of an entry. -/
def entryDetail (label entry : Text) : Text :=
  match (Threshold.check label entry).error with
  | some error => error
  | none =>
    match Threshold.parse? entry with
    | some t => threshold t
    | none => "empty"

/-- The line for an entry, ended. -/
def entryLine (label entry : Text) : Text :=
  Text.withoutSequences (Text.quoted entry ++ ": " ++ entryDetail label entry) ++ ['\n']

/-- Look at thresholds. -/
def thresholds (label : Text) (entries : List Text) : Outcome :=
  let valid := entries.all fun entry => (Threshold.check label entry).valid
  { status := if valid then .success else .invalid
    out := entries.flatMap (entryLine label)
    remarks := entries.flatMap Threshold.checkRemarks }

/-! ## Variables -/

/-- What is remarkable about a variable. -/
def variableFlags (formula : Text) (fixed : List FixedVariable) (symbol : Text) : List Text :=
  let denominator : List Text :=
    if Formula.isDenominator formula symbol then ["denominator"] else []
  let value : Option Text :=
    (fixed.find? (·.symbol == symbol)).map fun v => "fixed=" ++ v.value.plain
  denominator ++ value.toList

/-- The line for a variable, ended. -/
def variableLine (formula : Text) (fixed : List FixedVariable) (symbol : Text) : Text :=
  match variableFlags formula fixed symbol with
  | [] => symbol ++ ['\n']
  | flags => symbol ++ " (" ++ Text.join ", " flags ++ ")\n"

/-- Look at the variables of a formula. -/
def formula (formula : Text) (desired worst : Option Text) : Outcome :=
  match (Formula.check true formula).error with
  | some error => .refused [] .invalid error
  | none =>
    let fixed := FixedVariable.infer formula desired worst
    { status := .success
      out := (Formula.symbols formula).flatMap (variableLine formula fixed)
      remarks := FixedVariable.inferRemarks formula desired worst }

end MetricAudit.Command.Inspect
