/-
MetricAudit.Proofs.Document.Metrics — which documents describe metrics.

`Describes` says in words of the document alone which metrics it
describes: one metric, or a collection of them, each with its texts and
its variables in order. A value describes at most one metric, and does so
exactly if it has the shape of a metric (`describesMetric_iff`); then it
is the metric that is built from it. So a document gives the metrics that
it describes, and what describes none is refused.

A refused document is shown in the message about it. One that cannot be
shown, for its depth or for a long integer, is refused without a message
about its shape (`misshapen_iff`).
-/
import Mathlib.Data.List.Forall2
import MetricAudit.Document.Metrics
import MetricAudit.Proofs.Data.Table
import MetricAudit.Proofs.Document.Shape
import MetricAudit.Proofs.Json.Printer

namespace MetricAudit.Document

/-! ## What a document describes -/

/-- A text stands under a name; or there is none, and nothing stands
there. -/
def HoldsOptional (entries : Table) (name : Text) : Option Text → Prop
  | some t => entries.get? name = some (.text t)
  | none => entries.get? name = none ∨ entries.get? name = some .nothing

/-- A text stands under a name; an empty one may be left out. -/
def HoldsEntered (entries : Table) (name : Text) (t : Text) : Prop :=
  entries.get? name = some (.text t) ∨ t = [] ∧ HoldsOptional entries name none

/-- The variable that a value declares. -/
inductive DescribesVariable : Data → Declaration → Prop
  | table {entries : Table} {d : Declaration}
      (symbol : entries.get? "symbol" = some (.text d.symbol))
      (description : entries.get? "description" = some (.text d.description) ∨
        d.description = [] ∧ entries.get? "description" = none)
      (closed : ∀ name ∈ entries.names, name = "symbol" ∨ name = "description") :
      DescribesVariable (.table entries) d

/-- The variables that a table declares. -/
def HoldsVariables (entries : Table) (declared : List Declaration) : Prop :=
  (∃ values, entries.get? "variables" = some (.list values) ∧
    List.Forall₂ DescribesVariable values declared) ∨
  declared = [] ∧ entries.get? "variables" = none

/-- The names of what a metric may consist of. -/
def metricNames : List Text :=
  ["name", "code", "description", "formula", "desired_threshold", "worst_case", "variables"]

/-- The metric that a value describes. -/
inductive DescribesMetric : Data → Metric → Prop
  | table {entries : Table} {m : Metric}
      (name : entries.get? "name" = some (.text m.name))
      (code : HoldsEntered entries "code" m.code)
      (description : HoldsEntered entries "description" m.description)
      (formula : HoldsEntered entries "formula" m.formula)
      (desired : HoldsOptional entries "desired_threshold" m.desired)
      (worst : HoldsOptional entries "worst_case" m.worst)
      (declared : HoldsVariables entries m.declared)
      (closed : ∀ name ∈ entries.names, name ∈ metricNames) :
      DescribesMetric (.table entries) m

/-- The metrics that a document describes. -/
inductive Describes : Data → List Metric → Prop
  | metric {value : Data} {m : Metric} (h : DescribesMetric value m) : Describes value [m]
  | collection {entries : Table} {values : List Data} {ms : List Metric}
      (metrics : entries.get? "metrics" = some (.list values))
      (each : List.Forall₂ DescribesMetric values ms)
      (closed : ∀ name ∈ entries.names, name = "metrics") :
      Describes (.table entries) ms

/-! ## Texts -/

section
variable {entries : Table} {name : Text}

theorem holdsOptional_iff {t : Option Text} :
    HoldsOptional entries name t ↔
      optionalTextShape.HasAt entries name ∧ textField? entries name = t := by
  unfold Shape.HasAt textField? optionalTextShape
  simp only [Shape.has_named_iff, Shape.has_optionalText_iff]
  cases h : entries.get? name with
  | none => cases t <;> simp [HoldsOptional, h]
  | some value => cases value <;> cases t <;> simp [HoldsOptional, h]

theorem holdsEntered_iff {t : Text} :
    HoldsEntered entries name t ↔
      optionalTextShape.HasAt entries name ∧ Text.entered (textField? entries name) = t := by
  unfold HoldsEntered Shape.HasAt textField? optionalTextShape
  simp only [Shape.has_named_iff, Shape.has_optionalText_iff]
  cases h : entries.get? name with
  | none => simp [HoldsOptional, h, Text.entered, eq_comm]
  | some value => cases value <;> simp [HoldsOptional, h, Text.entered, eq_comm]

/-- A text that must be there. -/
theorem get?_eq_text_iff {t : Text} :
    entries.get? name = some (.text t) ↔
      (∃ value, entries.get? name = some value) ∧ Shape.text.HasAt entries name ∧
        Text.entered (textField? entries name) = t := by
  unfold Shape.HasAt textField?
  simp only [Shape.has_text_iff]
  cases h : entries.get? name with
  | none => simp
  | some value => cases value <;> simp [Text.entered]

/-- A text that may be left out. -/
theorem get?_eq_text_or_none_iff {t : Text} :
    (entries.get? name = some (.text t) ∨ t = [] ∧ entries.get? name = none) ↔
      Shape.text.HasAt entries name ∧ Text.entered (textField? entries name) = t := by
  unfold Shape.HasAt textField?
  simp only [Shape.has_text_iff]
  cases h : entries.get? name with
  | none => simp [Text.entered, eq_comm]
  | some value => cases value <;> simp [Text.entered]

end

/-! ## Variables -/

/-- Items that are described one by one are described where all have the
shape for it. -/
theorem forall₂_iff_map {α β : Type} {R : α → β → Prop} {P : α → Prop} {f : α → β}
    (h : ∀ a b, R a b ↔ P a ∧ f a = b) (as : List α) (bs : List β) :
    List.Forall₂ R as bs ↔ (∀ a ∈ as, P a) ∧ as.map f = bs := by
  induction as generalizing bs with
  | nil => cases bs <;> simp
  | cons a as ih =>
    cases bs with
    | nil => simp
    | cons b bs =>
      rw [List.forall₂_cons, h, ih, List.forall_mem_cons, List.map_cons, List.cons.injEq]
      exact and_and_and_comm

theorem describesVariable_iff (value : Data) (d : Declaration) :
    DescribesVariable value d ↔ variableShape.Has value ∧ declaration value = d := by
  rw [variableShape, Shape.has_named_iff, Shape.has_record_iff]
  constructor
  · rintro ⟨hsymbol, hdescription, hclosed⟩
    obtain ⟨hthere, hsymbol, hs⟩ := get?_eq_text_iff.mp hsymbol
    obtain ⟨hdescription, hd⟩ := get?_eq_text_or_none_iff.mp hdescription
    refine ⟨⟨_, rfl, ?_, ?_, ?_⟩, ?_⟩
    · simpa using ⟨hsymbol, hdescription⟩
    · simpa using hthere
    · simpa using hclosed
    · rw [declaration, entriesOf, hs, hd]
  · rintro ⟨⟨entries, rfl, hfields, hthere, hclosed⟩, rfl⟩
    simp only [List.forall_mem_cons] at hfields hthere
    exact .table (get?_eq_text_iff.mpr ⟨hthere.1, hfields.1, rfl⟩)
      (get?_eq_text_or_none_iff.mpr ⟨hfields.2.1, rfl⟩) (by simpa using hclosed)

theorem holdsVariables_iff {entries : Table} {declared : List Declaration} :
    HoldsVariables entries declared ↔
      (Shape.list variableShape).HasAt entries "variables" ∧
        (listField entries "variables").map declaration = declared := by
  unfold HoldsVariables Shape.HasAt listField
  simp only [Shape.has_list_iff, forall₂_iff_map describesVariable_iff]
  cases h : entries.get? "variables" with
  | none => simp [eq_comm]
  | some value => cases value <;> simp

/-! ## Metrics -/

theorem describesMetric_iff (value : Data) (m : Metric) :
    DescribesMetric value m ↔ metricShape.Has value ∧ metric value = m := by
  rw [metricShape, Shape.has_named_iff, Shape.has_record_iff]
  constructor
  · rintro ⟨hname, hcode, hdescription, hformula, hdesired, hworst, hdeclared, hclosed⟩
    obtain ⟨hthere, hname, hn⟩ := get?_eq_text_iff.mp hname
    obtain ⟨hcode, hc⟩ := holdsEntered_iff.mp hcode
    obtain ⟨hdescription, hd⟩ := holdsEntered_iff.mp hdescription
    obtain ⟨hformula, hf⟩ := holdsEntered_iff.mp hformula
    obtain ⟨hdesired, ht⟩ := holdsOptional_iff.mp hdesired
    obtain ⟨hworst, hw⟩ := holdsOptional_iff.mp hworst
    obtain ⟨hdeclared, hv⟩ := holdsVariables_iff.mp hdeclared
    refine ⟨⟨_, rfl, ?_, ?_, ?_⟩, ?_⟩
    · simpa using ⟨hname, hcode, hdescription, hformula, hdesired, hworst, hdeclared⟩
    · simpa using hthere
    · exact fun _ => hclosed
    · rw [metric, entriesOf, hn, hc, hd, hf, ht, hw, hv]
  · rintro ⟨⟨entries, rfl, hfields, hthere, hclosed⟩, rfl⟩
    simp only [List.forall_mem_cons] at hfields hthere
    obtain ⟨hname, hcode, hdescription, hformula, hdesired, hworst, hdeclared, -⟩ := hfields
    exact .table (get?_eq_text_iff.mpr ⟨hthere.1, hname, rfl⟩) (holdsEntered_iff.mpr ⟨hcode, rfl⟩)
      (holdsEntered_iff.mpr ⟨hdescription, rfl⟩) (holdsEntered_iff.mpr ⟨hformula, rfl⟩)
      (holdsOptional_iff.mpr ⟨hdesired, rfl⟩) (holdsOptional_iff.mpr ⟨hworst, rfl⟩)
      (holdsVariables_iff.mpr ⟨hdeclared, rfl⟩) (hclosed rfl)

/-- A metric is not a collection: it has no entry for metrics. -/
theorem get?_metrics_eq_none {entries : Table} (h : metricShape.Has (.table entries)) :
    entries.get? "metrics" = none := by
  rw [metricShape, Shape.has_named_iff, Shape.has_record_iff] at h
  obtain ⟨_, heq, -, -, hclosed⟩ := h
  obtain rfl := Data.table.inj heq
  exact Table.get?_eq_none_iff.mpr fun hmem => absurd (hclosed rfl _ hmem) (by decide)

theorem metricValues_of_metric {value : Data} (h : metricShape.Has value) :
    metricValues value = [value] := by
  have htable := h
  rw [metricShape, Shape.has_named_iff, Shape.has_record_iff] at htable
  obtain ⟨entries, rfl, -⟩ := htable
  rw [metricValues, entriesOf, get?_metrics_eq_none h]

/-! ## Documents -/

theorem has_collectionShape_iff {document : Data} :
    collectionShape.Has document ↔
      ∃ entries values, document = .table entries ∧
        Table.get? entries "metrics" = some (.list values) ∧
        (∀ value ∈ values, metricShape.Has value) ∧
        ∀ name ∈ Table.names entries, name = "metrics" := by
  rw [collectionShape, Shape.has_record_iff]
  simp only [List.map_cons, List.map_nil, List.mem_singleton, forall_eq, true_imp_iff, Shape.HasAt]
  constructor
  · rintro ⟨entries, rfl, hfields, ⟨value, hthere⟩, hclosed⟩
    obtain ⟨values, rfl, hvalues⟩ := Shape.has_list_iff.mp (hfields value hthere)
    exact ⟨entries, values, rfl, hthere, hvalues, hclosed⟩
  · rintro ⟨entries, values, rfl, hthere, hvalues, hclosed⟩
    refine ⟨entries, rfl, fun value hvalue => ?_, ⟨_, hthere⟩, hclosed⟩
    obtain rfl := Option.some.inj (hthere.symm.trans hvalue)
    exact Shape.has_list_iff.mpr ⟨values, rfl, hvalues⟩

theorem describes_iff (document : Data) (ms : List Metric) :
    Describes document ms ↔
      (metricShape.Has document ∨ collectionShape.Has document) ∧
        (metricValues document).map metric = ms := by
  constructor
  · rintro (h | ⟨hmetrics, heach, hclosed⟩)
    · obtain ⟨hshape, rfl⟩ := (describesMetric_iff _ _).mp h
      exact ⟨.inl hshape, by rw [metricValues_of_metric hshape, List.map_singleton]⟩
    · obtain ⟨hshapes, rfl⟩ := (forall₂_iff_map describesMetric_iff _ _).mp heach
      refine ⟨.inr (has_collectionShape_iff.mpr ⟨_, _, rfl, hmetrics, hshapes, hclosed⟩), ?_⟩
      rw [metricValues, entriesOf, hmetrics]
  · rintro ⟨hshape | hshape, rfl⟩
    · rw [metricValues_of_metric hshape]
      exact .metric ((describesMetric_iff _ _).mpr ⟨hshape, rfl⟩)
    · obtain ⟨entries, values, rfl, hmetrics, hvalues, hclosed⟩ :=
        has_collectionShape_iff.mp hshape
      rw [metricValues, entriesOf, hmetrics]
      exact .collection hmetrics
        ((forall₂_iff_map describesMetric_iff _ _).mpr ⟨hvalues, rfl⟩) hclosed

/-- The shapes of a metric and of a collection exclude each other. -/
theorem not_has_collectionShape {document : Data} (h : metricShape.Has document) :
    ¬collectionShape.Has document := by
  intro hcollection
  obtain ⟨entries, values, rfl, hthere, -⟩ := has_collectionShape_iff.mp hcollection
  exact nomatch hthere.symm.trans (get?_metrics_eq_none h)

theorem fault?_eq_none_iff {document : Data} :
    fault? document = none ↔ metricShape.Has document ∨ collectionShape.Has document := by
  have hnot : metricShape.Has document → ¬collectionShape.Has document :=
    not_has_collectionShape
  unfold Shape.Has at hnot ⊢
  unfold fault?
  split <;> simp_all

section
variable {shows : Data → Bool} {document : Data}

theorem metrics_eq_ok_iff {ms : List Metric} :
    metrics shows document = .ok ms ↔ Describes document ms := by
  rw [describes_iff, ← fault?_eq_none_iff, metrics]
  cases fault? document with
  | none => simp
  | some fault =>
    simp only [reduceCtorEq, false_and, iff_false]
    split_ifs <;> simp

/-- A document without metrics is reported by its shape where it can be
shown. -/
theorem misshapen_iff :
    (∃ fault, metrics shows document = .error (.misshapen fault)) ↔
      (¬∃ ms, Describes document ms) ∧ shows document = true ∧
        document.integerDigits ≤ DigitLimit.most := by
  simp only [describes_iff, exists_eq_right', ← fault?_eq_none_iff, ← Nat.not_lt, metrics]
  cases fault? document with
  | none => simp
  | some fault => split_ifs <;> simp_all

end

/-- **Which documents give metrics.** A document gives exactly the metrics
that it describes. One that describes none is reported by its shape where
it can be shown: where there is room for its levels, and its integers are
not too long. Those of a document that is read from JSON never are. -/
theorem metrics_characterized (shows : Data → Bool) (document : Data) :
    (∀ ms, metrics shows document = .ok ms ↔ Describes document ms) ∧
    ((∃ fault, metrics shows document = .error (.misshapen fault)) ↔
      (¬∃ ms, Describes document ms) ∧ shows document = true ∧
        document.integerDigits ≤ DigitLimit.most) ∧
    ((∃ room s, Json.read room s = .ok document) →
      ((∃ fault, metrics shows document = .error (.misshapen fault)) ↔
        (¬∃ ms, Describes document ms) ∧ shows document = true)) := by
  refine ⟨fun ms => metrics_eq_ok_iff, misshapen_iff, ?_⟩
  rintro ⟨room, s, hs⟩
  rw [misshapen_iff, and_iff_left (Json.within_of_read hs).2]

theorem not_describes_name {name : Data} (hname : ∀ t, name ≠ .text t) (ms : List Metric) :
    ¬Describes (.table [("name", name)]) ms := by
  rintro (⟨hthere, -⟩ | ⟨hmetrics, -, -⟩)
  · simp [Table.get?, hname] at hthere
  · simp [Table.get?] at hmetrics

/-- A metric whose name is a truth value, read from JSON. -/
theorem metrics_characterized_truth :
    (∃ room s, Json.read room s = .ok (.table [("name", .bool true)])) ∧
      ∃ fault, metrics NestingLimits.usual.shows (.table [("name", .bool true)]) =
        .error (.misshapen fault) := by
  have hprintable : Json.Printable 983 (.table [("name", .bool true)]) :=
    Json.printable_table (by decide) (List.forall_mem_singleton.mpr (Json.printable_bool true))
  have hordered : Json.ordered (.table [("name", .bool true)]) =
      .table [("name", .bool true)] := by
    simp [Json.ordered, Json.orderedEntries]
  have hread := (Json.read_print hprintable .compact).2 _ NestingLimits.allow_usual.json
  rw [hordered] at hread
  obtain ⟨-, -, hjson⟩ :=
    metrics_characterized NestingLimits.usual.shows (.table [("name", .bool true)])
  refine ⟨⟨_, _, hread⟩, (hjson ⟨_, _, hread⟩).mpr ⟨?_, by decide +kernel⟩⟩
  rintro ⟨ms, hms⟩
  exact not_describes_name (by simp) ms hms

/-- An integer for a name that is too long to be shown. -/
theorem not_misshapen_of_long (shows : Data → Bool) {n : Nat} (hn : 10 ^ DigitLimit.most ≤ n) :
    ¬∃ fault, metrics shows (.table [("name", .integer n)]) = .error (.misshapen fault) := by
  intro hfault
  obtain ⟨-, -, hdigits⟩ := misshapen_iff.mp hfault
  have hpos : n ≠ 0 := (Nat.lt_of_lt_of_le (Nat.pow_pos (by decide)) hn).ne'
  have hlong : DigitLimit.most < (Text.ofNat n).length := (Text.pow_le_iff_lt_length hpos).mp hn
  simp only [Data.integerDigits, Data.integerDigitsEntries, Int.natAbs_natCast] at hdigits
  omega

/-- A name of 16 to the power of 3600, which a TOML document can write in
its own base, neither gives metrics nor is reported by its shape, however
deep data may nest. -/
theorem not_misshapen_longInteger :
    let document : Data := .table [("name", .integer (16 ^ 3600 : Nat))]
    (¬∃ ms, Describes document ms) ∧
      ∀ shows, ¬∃ fault, metrics shows document = .error (.misshapen fault) := by
  intro document
  have hlong : 10 ^ DigitLimit.most ≤ 16 ^ 3600 := by decide +kernel
  have hname : ∀ t, Data.integer (16 ^ 3600 : Nat) ≠ .text t := fun _ => nofun
  exact ⟨fun ⟨ms, hms⟩ => not_describes_name hname ms hms,
    fun shows => not_misshapen_of_long shows hlong⟩

end MetricAudit.Document
