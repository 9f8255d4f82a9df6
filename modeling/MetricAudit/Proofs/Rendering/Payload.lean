/-
MetricAudit.Proofs.Rendering.Payload — what the payload of reports says.

Each table of the payload holds the fields of a part of a report. So the
payload has the published shape (`has_reportShape`), it is printed as a
standard text, and what is read from that text carries the reports
(`Carries`), each with all that was found for its metric. Nothing of it
is lost: reports that are carried by the same data have the same contents
(`Carries.same`).
-/
import MetricAudit.Proofs.Document.Shape
import MetricAudit.Proofs.Json.Printer
import MetricAudit.Proofs.Metric.Fixed
import MetricAudit.Proofs.Metric.Results
import MetricAudit.Rendering.Payload

namespace MetricAudit.Rendering.Payload

open Document (Shape)
open Json (Printable ordered orderedTable)
open Table (ofFields)

/-! ## The fields of the tables -/

/-- What is said of a verdict. -/
def verdictFields (v : Verdict) : List (Text × Option Data) :=
  [("valid", some (.bool v.valid)), ("error", v.error.map .text),
   ("warning", v.warning.map .text), ("success", v.success.map .text)]

/-- What is said of a fixed variable. -/
def fixedFields (v : FixedVariable) : List (Text × Option Data) :=
  [("symbol", some (.text v.symbol)), ("fixed_value", some (.real v.value)),
   ("reason", some (.text v.reason.text))]

/-- What is said of a report, where these are its results and its fixed
variables. -/
def reportFields (r : Report) (results fixed : Data) : List (Text × Option Data) :=
  [("name", some (.text r.metric.name)), ("valid", some (.bool r.valid)),
   ("results", some results), ("variables", some (texts r.symbols)),
   ("denominators", some (texts r.denominators)), ("fixed_variables", some fixed),
   ("case", r.case.map fun c => .text c.case.name)]

/-- What is said of some reports, where these are the program and the
single reports. -/
def payloadFields (reports : List Report) (tool metrics : Data) : List (Text × Option Data) :=
  [("schema", some (.text Document.reportSchema.id)), ("tool", some tool),
   ("valid", some (.bool (reports.all Report.valid))), ("metrics", some metrics)]

theorem verdict_eq (v : Verdict) : verdict v = .table (ofFields (verdictFields v)) := by
  obtain ⟨error, warning, success⟩ := v
  cases error <;> cases warning <;> cases success <;> rfl

theorem fixedVariable_eq (v : FixedVariable) :
    fixedVariable v = .table (ofFields (fixedFields v)) := rfl

/-- The verdicts of a report by their fields. -/
def resultsTable (r : Results) : Table := r.map fun e => (e.1, verdict e.2)

theorem report_eq (r : Report) :
    report r = .table (ofFields
      (reportFields r (.table (resultsTable r.results)) (.list (r.fixed.map fixedVariable)))) := by
  unfold report reportFields
  cases r.case <;> rfl

/-- What is said of the program. -/
def toolFields : List (Text × Option Data) :=
  [("name", some (.text Program.name)), ("version", some (.text Program.version))]

/-- The program that makes the payload. -/
def tool : Data := .table (ofFields toolFields)

theorem ofReports_eq (reports : List Report) :
    ofReports reports =
      .table (ofFields (payloadFields reports tool (.list (reports.map report)))) := rfl

/-! ## What the payload carries -/

/-- Data hold the fields of a verdict. -/
def CarriesVerdict (d : Data) (v : Verdict) : Prop :=
  ∃ t : Table, d = .table t ∧ t.Holds (verdictFields v)

/-- Data hold the fields of a fixed variable. -/
def CarriesFixed (d : Data) (v : FixedVariable) : Prop :=
  ∃ t : Table, d = .table t ∧ t.Holds (fixedFields v)

/-- A table holds the verdicts of some results under the names of their
fields. -/
structure CarriesResults (t : Table) (r : Results) : Prop where
  distinct : t.names.Nodup
  each : ∀ e ∈ r, ∃ d, t.get? e.1 = some d ∧ CarriesVerdict d e.2
  only : ∀ name ∈ t.names, name ∈ r.map (·.1)

/-- Data hold the fields of a report. -/
def CarriesReport (d : Data) (r : Report) : Prop :=
  ∃ (t results : Table) (fixed : List Data), d = .table t ∧
    t.Holds (reportFields r (.table results) (.list fixed)) ∧
    CarriesResults results r.results ∧ List.Forall₂ CarriesFixed fixed r.fixed

/-- Data hold the fields of some reports, each report in its place. -/
def Carries (d : Data) (reports : List Report) : Prop :=
  ∃ (t : Table) (tool : Data) (metrics : List Data), d = .table t ∧
    t.Holds (payloadFields reports tool (.list metrics)) ∧
    List.Forall₂ CarriesReport metrics reports

/-! ## Verdicts -/

theorem nodup_verdictFields (v : Verdict) : ((verdictFields v).map (·.1)).Nodup := by
  have hnames : (["valid", "error", "warning", "success"] : List Text).Nodup := by decide
  exact hnames

theorem carriesVerdict_verdict (v : Verdict) : CarriesVerdict (verdict v) v :=
  ⟨_, verdict_eq v, Table.holds_ofFields (nodup_verdictFields v)⟩

theorem CarriesVerdict.ordered {d : Data} {v : Verdict} (h : CarriesVerdict d v) :
    CarriesVerdict (ordered d) v := by
  obtain ⟨t, rfl, ht⟩ := h
  have hfields : (verdictFields v).map (fun f => (f.1, f.2.map Json.ordered)) =
      verdictFields v := by
    obtain ⟨error, warning, success⟩ := v
    cases error <;> cases warning <;> cases success <;> rfl
  exact ⟨orderedTable t, rfl, hfields ▸ Json.holds_orderedTable ht⟩

theorem CarriesVerdict.has_shape {d : Data} {v : Verdict} (h : CarriesVerdict d v) :
    Document.verdictShape.Has d := by
  obtain ⟨t, rfl, ht⟩ := h
  refine Shape.has_named_iff.mpr (Shape.has_record_of_holds ht ?_ ?_)
  · simp [verdictFields, Shape.has_truth_iff, Shape.has_text_iff]
  · simp [verdictFields]

theorem CarriesVerdict.inj {d : Data} {v v' : Verdict} (h : CarriesVerdict d v)
    (h' : CarriesVerdict d v') : v = v' := by
  obtain ⟨t, rfl, ht⟩ := h
  obtain ⟨t', heq, ht'⟩ := h'
  obtain rfl := Data.table.inj heq
  have hsame : ∀ (name : Text) {o o' : Option Text},
      (name, o.map Data.text) ∈ verdictFields v →
      (name, o'.map Data.text) ∈ verdictFields v' → o = o' := fun name _ _ hmem hmem' =>
    Option.map_injective (fun _ _ => Data.text.inj) (ht.eq_of_mem ht' name hmem hmem')
  have herror : v.error = v'.error :=
    hsame "error" (by simp [verdictFields]) (by simp [verdictFields])
  have hwarning : v.warning = v'.warning :=
    hsame "warning" (by simp [verdictFields]) (by simp [verdictFields])
  have hsuccess : v.success = v'.success :=
    hsame "success" (by simp [verdictFields]) (by simp [verdictFields])
  obtain ⟨error, warning, success⟩ := v
  rw [Verdict.mk.injEq]
  exact ⟨herror, hwarning, hsuccess⟩

theorem printable_verdict (levels : Nat) (v : Verdict) : Printable (levels + 1) (verdict v) := by
  rw [verdict_eq]
  refine Json.printable_ofFields (nodup_verdictFields v) ?_
  simp [verdictFields, Json.printable_bool, Json.printable_text]

/-! ## Fixed variables -/

theorem nodup_fixedFields (v : FixedVariable) : ((fixedFields v).map (·.1)).Nodup := by
  have hnames : (["symbol", "fixed_value", "reason"] : List Text).Nodup := by decide
  exact hnames

theorem carriesFixed_fixedVariable (v : FixedVariable) : CarriesFixed (fixedVariable v) v :=
  ⟨_, fixedVariable_eq v, Table.holds_ofFields (nodup_fixedFields v)⟩

theorem CarriesFixed.ordered {d : Data} {v : FixedVariable} (h : CarriesFixed d v) :
    CarriesFixed (ordered d) v := by
  obtain ⟨t, rfl, ht⟩ := h
  exact ⟨orderedTable t, rfl, Json.holds_orderedTable ht⟩

theorem CarriesFixed.has_shape {d : Data} {v : FixedVariable} (h : CarriesFixed d v) :
    Document.fixedVariableShape.Has d := by
  obtain ⟨t, rfl, ht⟩ := h
  refine Shape.has_named_iff.mpr (Shape.has_record_of_holds ht ?_ ?_)
  · simp [fixedFields, Shape.has_number_iff, Shape.has_text_iff]
  · simp [fixedFields]

/-- A variable is fixed to a side of a ratio, which is finite. -/
theorem isFinite_of_mem_fixed {s : Settings} {m : Metric} {v : FixedVariable}
    (hv : v ∈ (Metric.check s m).fixed) : v.value.isFinite = true := by
  have hfixed : v ∈ m.fixed := by
    rw [Metric.check] at hv
    split at hv
    · exact hv
    · exact absurd hv List.not_mem_nil
  exact FixedVariable.isFinite_of_mem_infer hfixed

/-- Two fixed variables of which the same is said. -/
def SameFixed (v v' : FixedVariable) : Prop :=
  v.symbol = v'.symbol ∧ v.value = v'.value ∧ v.reason.text = v'.reason.text

theorem CarriesFixed.same {d : Data} {v v' : FixedVariable} (h : CarriesFixed d v)
    (h' : CarriesFixed d v') : SameFixed v v' := by
  obtain ⟨t, rfl, ht⟩ := h
  obtain ⟨t', heq, ht'⟩ := h'
  obtain rfl := Data.table.inj heq
  have hsymbol : some (Data.text v.symbol) = some (.text v'.symbol) :=
    ht.eq_of_mem ht' "symbol" (by simp [fixedFields]) (by simp [fixedFields])
  have hvalue : some (Data.real v.value) = some (.real v'.value) :=
    ht.eq_of_mem ht' "fixed_value" (by simp [fixedFields]) (by simp [fixedFields])
  have hreason : some (Data.text v.reason.text) = some (.text v'.reason.text) :=
    ht.eq_of_mem ht' "reason" (by simp [fixedFields]) (by simp [fixedFields])
  exact ⟨Data.text.inj (Option.some.inj hsymbol), Data.real.inj (Option.some.inj hvalue),
    Data.text.inj (Option.some.inj hreason)⟩

theorem printable_fixedVariable (levels : Nat) {v : FixedVariable}
    (hv : v.value.isFinite = true) : Printable (levels + 1) (fixedVariable v) := by
  rw [fixedVariable_eq]
  refine Json.printable_ofFields (nodup_fixedFields v) ?_
  simp [fixedFields, Json.printable_real hv, Json.printable_text]

/-! ## Results -/

section
variable {r : Results} (hr : (r.map Prod.fst).Nodup)

include hr

theorem nodup_resultsTable : (resultsTable r).names.Nodup := by
  rwa [Table.names, resultsTable, List.map_map]

theorem carriesResults_resultsTable : CarriesResults (resultsTable r) r := by
  have hdistinct := nodup_resultsTable hr
  refine ⟨hdistinct, fun e he => ⟨verdict e.2, ?_, carriesVerdict_verdict e.2⟩, fun name hname => ?_⟩
  · exact (Table.get?_eq_some_iff_mem hdistinct).mpr (List.mem_map.mpr ⟨e, he, rfl⟩)
  · rwa [Table.names, resultsTable, List.map_map] at hname

theorem printable_resultsTable (levels : Nat) :
    Printable (levels + 2) (.table (resultsTable r)) :=
  Json.printable_table (nodup_resultsTable hr)
    (List.forall_mem_map.mpr fun e _ => printable_verdict levels e.2)

end

theorem CarriesResults.ordered {t : Table} {r : Results} (h : CarriesResults t r) :
    CarriesResults (orderedTable t) r := by
  have hnames := Json.names_orderedTable_perm t
  refine ⟨hnames.nodup_iff.mpr h.distinct, fun e he => ?_, fun name hname =>
    h.only name (hnames.mem_iff.mp hname)⟩
  obtain ⟨d, hd, hcarries⟩ := h.each e he
  exact ⟨Json.ordered d, by rw [Json.get?_orderedTable h.distinct, hd]; rfl, hcarries.ordered⟩

theorem CarriesResults.has_shape {t : Table} {r : Results} (h : CarriesResults t r) :
    (Shape.tableOf Document.verdictShape).Has (.table t) := by
  refine Shape.has_tableOf_iff.mpr ⟨t, rfl, fun entry hentry => ?_⟩
  obtain ⟨e, he, hname⟩ := List.mem_map.mp (h.only _ (List.mem_map_of_mem hentry))
  obtain ⟨d, hd, hcarries⟩ := h.each e he
  have hvalue : t.get? entry.1 = some entry.2 := (Table.get?_eq_some_iff_mem h.distinct).mpr hentry
  rw [hname, hvalue] at hd
  exact Option.some.inj hd ▸ hcarries.has_shape

theorem CarriesResults.subset {t : Table} {r r' : Results} (h : CarriesResults t r)
    (h' : CarriesResults t r') : ∀ e ∈ r, e ∈ r' := by
  intro e he
  obtain ⟨d, hd, hcarries⟩ := h.each e he
  have hname : e.1 ∈ t.names := by
    by_contra hnot
    rw [Table.get?_eq_none_iff.mpr hnot] at hd
    cases hd
  obtain ⟨e', he', hfield⟩ := List.mem_map.mp (h'.only e.1 hname)
  obtain ⟨d', hd', hcarries'⟩ := h'.each e' he'
  rw [hfield, hd] at hd'
  have hverdict : e.2 = e'.2 := hcarries.inj (Option.some.inj hd' ▸ hcarries')
  rwa [Prod.ext (hfield.symm) hverdict]

/-! ## Reports -/

theorem ordered_texts (ts : List Text) : ordered (texts ts) = texts ts := by
  rw [texts, Json.ordered_list, List.map_map]
  rfl

theorem texts_inj {ts ts' : List Text} (h : texts ts = texts ts') : ts = ts' :=
  List.map_injective_iff.mpr (fun _ _ => Data.text.inj) (Data.list.inj h)

theorem has_texts (ts : List Text) : (Shape.list .text).Has (texts ts) :=
  Shape.has_list_iff.mpr ⟨_, rfl, List.forall_mem_map.mpr fun t _ => Shape.has_text_iff.mpr ⟨t, rfl⟩⟩

theorem printable_texts (levels : Nat) (ts : List Text) : Printable (levels + 1) (texts ts) :=
  Json.printable_list (List.forall_mem_map.mpr fun t _ => Json.printable_text t)

theorem nodup_reportFields (r : Report) (results fixed : Data) :
    ((reportFields r results fixed).map (·.1)).Nodup := by
  have hnames : (["name", "valid", "results", "variables", "denominators", "fixed_variables",
    "case"] : List Text).Nodup := by decide
  exact hnames

theorem forall₂_carriesFixed (vs : List FixedVariable) :
    List.Forall₂ CarriesFixed (vs.map fixedVariable) vs := by
  induction vs with
  | nil => exact .nil
  | cons v vs ih => exact .cons (carriesFixed_fixedVariable v) ih

theorem carriesReport_report {r : Report} (hr : (r.results.map Prod.fst).Nodup) :
    CarriesReport (report r) r :=
  ⟨_, _, _, report_eq r, Table.holds_ofFields (nodup_reportFields r _ _),
    carriesResults_resultsTable hr, forall₂_carriesFixed r.fixed⟩

theorem CarriesReport.ordered {d : Data} {r : Report} (h : CarriesReport d r) :
    CarriesReport (ordered d) r := by
  obtain ⟨t, results, fixed, rfl, ht, hresults, hfixed⟩ := h
  have hfields : (reportFields r (.table results) (.list fixed)).map
      (fun f => (f.1, f.2.map Json.ordered)) =
      reportFields r (.table (orderedTable results)) (.list (fixed.map Json.ordered)) := by
    simp only [reportFields, List.map_cons, List.map_nil, Option.map_some, ordered_texts,
      Json.ordered_table, Json.ordered_list, Option.map_map]
    rfl
  exact ⟨orderedTable t, _, _, rfl, hfields ▸ Json.holds_orderedTable ht, hresults.ordered,
    List.forall₂_map_left_iff.mpr (hfixed.imp fun _ _ => CarriesFixed.ordered)⟩

theorem CarriesReport.has_shape {d : Data} {r : Report} (h : CarriesReport d r) :
    Document.metricReportShape.Has d := by
  obtain ⟨t, results, fixed, rfl, ht, hresults, hfixed⟩ := h
  have hlist : (Shape.list Document.fixedVariableShape).Has (.list fixed) :=
    Shape.has_list_iff.mpr ⟨fixed, rfl, fun v hv =>
      (exists_mem_of_forall₂ hfixed.flip hv).elim fun _ h => CarriesFixed.has_shape h.2⟩
  refine Shape.has_named_iff.mpr (Shape.has_record_of_holds ht ?_ ?_)
  · simp [reportFields, Shape.has_truth_iff, Shape.has_text_iff, has_texts, hresults.has_shape,
      hlist]
  · simp [reportFields]

/-- Two reports of which the same is said: they differ in the order of
their results and in their notes at most. -/
structure SameContents (r r' : Report) : Prop where
  name : r.metric.name = r'.metric.name
  valid : r.valid = r'.valid
  results : ∀ e, e ∈ r.results ↔ e ∈ r'.results
  symbols : r.symbols = r'.symbols
  denominators : r.denominators = r'.denominators
  fixed : List.Forall₂ SameFixed r.fixed r'.fixed
  case : r.case.map (·.case) = r'.case.map (·.case)

theorem name_inj {c c' : Threshold.Case} (h : c.name = c'.name) : c = c' := by
  cases c <;> cases c' <;> first | rfl | (revert h; decide)

/-- What the same data carry is the same. -/
theorem forall₂_of_common {α : Type} {R : Data → α → Prop} {S : α → α → Prop}
    (hR : ∀ d a b, R d a → R d b → S a b) {ds : List Data} {as bs : List α}
    (ha : List.Forall₂ R ds as) (hb : List.Forall₂ R ds bs) : List.Forall₂ S as bs := by
  induction ha generalizing bs with
  | nil => cases hb; exact .nil
  | cons h _ ih =>
    cases hb with
    | cons h' hb => exact .cons (hR _ _ _ h h') (ih hb)

theorem CarriesReport.same {d : Data} {r r' : Report} (h : CarriesReport d r)
    (h' : CarriesReport d r') : SameContents r r' := by
  obtain ⟨t, results, fixed, rfl, ht, hresults, hfixed⟩ := h
  obtain ⟨t', results', fixed', heq, ht', hresults', hfixed'⟩ := h'
  obtain rfl := Data.table.inj heq
  have hname : some (Data.text r.metric.name) = some (.text r'.metric.name) :=
    ht.eq_of_mem ht' "name" (by simp [reportFields]) (by simp [reportFields])
  have hvalid : some (Data.bool r.valid) = some (.bool r'.valid) :=
    ht.eq_of_mem ht' "valid" (by simp [reportFields]) (by simp [reportFields])
  have htable : some (Data.table results) = some (.table results') :=
    ht.eq_of_mem ht' "results" (by simp [reportFields]) (by simp [reportFields])
  have hsymbols : some (texts r.symbols) = some (texts r'.symbols) :=
    ht.eq_of_mem ht' "variables" (by simp [reportFields]) (by simp [reportFields])
  have hdenominators : some (texts r.denominators) = some (texts r'.denominators) :=
    ht.eq_of_mem ht' "denominators" (by simp [reportFields]) (by simp [reportFields])
  have hlist : some (Data.list fixed) = some (.list fixed') :=
    ht.eq_of_mem ht' "fixed_variables" (by simp [reportFields]) (by simp [reportFields])
  have hcase : (r.case.map fun c => Data.text c.case.name) =
      r'.case.map fun c => Data.text c.case.name :=
    ht.eq_of_mem ht' "case" (by simp [reportFields]) (by simp [reportFields])
  obtain rfl := Data.table.inj (Option.some.inj htable)
  obtain rfl := Data.list.inj (Option.some.inj hlist)
  have hnames : Function.Injective fun c : Threshold.Case => Data.text c.name :=
    fun _ _ h => name_inj (Data.text.inj h)
  exact {
    name := Data.text.inj (Option.some.inj hname)
    valid := Data.bool.inj (Option.some.inj hvalid)
    results := fun e => ⟨hresults.subset hresults' e, hresults'.subset hresults e⟩
    symbols := texts_inj (Option.some.inj hsymbols)
    denominators := texts_inj (Option.some.inj hdenominators)
    fixed := forall₂_of_common (R := CarriesFixed) (fun _ _ _ => CarriesFixed.same) hfixed hfixed'
    case := Option.map_injective hnames (by rw [Option.map_map, Option.map_map]; exact hcase) }

theorem printable_report (levels : Nat) {r : Report} (hr : (r.results.map Prod.fst).Nodup)
    (hfixed : ∀ v ∈ r.fixed, v.value.isFinite = true) : Printable (levels + 3) (report r) := by
  rw [report_eq]
  have hresults := printable_resultsTable hr levels
  have hlist : Printable (levels + 2) (.list (r.fixed.map fixedVariable)) :=
    Json.printable_list (List.forall_mem_map.mpr fun v hv =>
      printable_fixedVariable levels (hfixed v hv))
  refine Json.printable_ofFields (nodup_reportFields r _ _) ?_
  simp [reportFields, Json.printable_bool, Json.printable_text, hresults, hlist, printable_texts]

/-! ## The payload -/

theorem nodup_payloadFields (reports : List Report) (tool metrics : Data) :
    ((payloadFields reports tool metrics).map (·.1)).Nodup := by
  have hnames : (["schema", "tool", "valid", "metrics"] : List Text).Nodup := by decide
  exact hnames

theorem nodup_toolFields : (toolFields.map (·.1)).Nodup := by
  have hnames : (["name", "version"] : List Text).Nodup := by decide
  exact hnames

/-- Reports as they are made: no field has two verdicts, and what is fixed
is finite. -/
def AreMade (reports : List Report) : Prop :=
  ∀ r ∈ reports, (r.results.map Prod.fst).Nodup ∧ ∀ v ∈ r.fixed, v.value.isFinite = true

theorem areMade_check (s : Settings) (ms : List Metric) : AreMade (ms.map (Metric.check s)) :=
  List.forall_mem_map.mpr fun m _ =>
    ⟨by rw [Metric.results_check]; exact Metric.nodup_fields s m,
      fun _ hv => isFinite_of_mem_fixed hv⟩

section
variable {reports : List Report} (h : AreMade reports)

include h

theorem carries_ofReports : Carries (ofReports reports) reports := by
  refine ⟨_, tool, _, ofReports_eq reports, Table.holds_ofFields (nodup_payloadFields _ _ _), ?_⟩
  exact List.forall₂_map_left_iff.mpr
    (List.forall₂_same.mpr fun r hr => carriesReport_report (h r hr).1)

theorem has_reportShape : Document.reportShape.Has (ofReports reports) := by
  have htool : (Shape.record [("name", .text), ("version", .text)] ["name", "version"] false).Has
      tool := by
    refine Shape.has_record_of_holds (Table.holds_ofFields nodup_toolFields) ?_ ?_
    · simp [toolFields, Shape.has_text_iff]
    · simp [toolFields]
  have hmetrics : (Shape.list Document.metricReportShape).Has (.list (reports.map report)) :=
    Shape.has_list_iff.mpr ⟨_, rfl, List.forall_mem_map.mpr fun r hr =>
      (carriesReport_report (h r hr).1).has_shape⟩
  have hthere : ∀ {shape : Shape} {d : Data}, shape.Has d → ∀ v ∈ some d, shape.Has v :=
    fun hd _ hv => Option.some.inj hv ▸ hd
  rw [ofReports_eq]
  refine Shape.has_record_of_holds (Table.holds_ofFields (nodup_payloadFields _ _ _)) ?_ ?_
  · exact .cons ⟨rfl, hthere (Shape.has_text_iff.mpr ⟨_, rfl⟩)⟩ (.cons ⟨rfl, hthere htool⟩
      (.cons ⟨rfl, hthere (Shape.has_truth_iff.mpr ⟨_, rfl⟩)⟩ (.cons ⟨rfl, hthere hmetrics⟩ .nil)))
  · simp [payloadFields]

theorem printable_ofReports (levels : Nat) : Printable (levels + 5) (ofReports reports) := by
  have htool : Printable (levels + 4) tool :=
    Json.printable_ofFields nodup_toolFields (by simp [toolFields, Json.printable_text])
  have hmetrics : Printable (levels + 4) (.list (reports.map report)) :=
    Json.printable_list (List.forall_mem_map.mpr fun r hr =>
      printable_report levels (h r hr).1 (h r hr).2)
  have hvalues : ∀ f ∈ payloadFields reports tool (.list (reports.map report)),
      ∀ d ∈ f.2, Printable (levels + 4) d := by
    simp [payloadFields, Json.printable_bool, Json.printable_text, htool, hmetrics]
  rw [ofReports_eq]
  exact Json.printable_ofFields (nodup_payloadFields _ _ _) hvalues

end

theorem Carries.ordered {d : Data} {reports : List Report} (h : Carries d reports) :
    Carries (ordered d) reports := by
  obtain ⟨t, tool, metrics, rfl, ht, hmetrics⟩ := h
  have hfields : (payloadFields reports tool (.list metrics)).map
      (fun f => (f.1, f.2.map Json.ordered)) =
      payloadFields reports (Json.ordered tool) (.list (metrics.map Json.ordered)) := by
    simp only [payloadFields, List.map_cons, List.map_nil, Option.map_some, Json.ordered_list]
    rfl
  exact ⟨orderedTable t, _, _, rfl, hfields ▸ Json.holds_orderedTable ht,
    List.forall₂_map_left_iff.mpr (hmetrics.imp fun _ _ => CarriesReport.ordered)⟩

theorem Carries.same {d : Data} {reports reports' : List Report} (h : Carries d reports)
    (h' : Carries d reports') : List.Forall₂ SameContents reports reports' := by
  obtain ⟨t, tool, metrics, rfl, ht, hmetrics⟩ := h
  obtain ⟨t', tool', metrics', heq, ht', hmetrics'⟩ := h'
  obtain rfl := Data.table.inj heq
  have hlist : some (Data.list metrics) = some (.list metrics') :=
    ht.eq_of_mem ht' "metrics" (by simp [payloadFields]) (by simp [payloadFields])
  obtain rfl := Data.list.inj (Option.some.inj hlist)
  exact forall₂_of_common (R := CarriesReport) (fun _ _ _ => CarriesReport.same) hmetrics hmetrics'

/-! ## The text -/

section
variable {reports : List Report} (h : AreMade reports)

include h

/-- The payload of reports is never refused. -/
theorem text_eq : text reports = .ok (Json.print .indented (ofReports reports)) := by
  have hshape : Document.reportShape.faults (ofReports reports) = [] := has_reportShape h
  unfold text
  simp only [hshape]

/-- The text of reports is a standard one, and it is read back where five
levels can be open. -/
theorem writes_print :
    Json.Writes (ordered (ofReports reports)) (Json.print .indented (ofReports reports)) ∧
    ∀ room : NestingLimit.Room, room.Allows 5 →
      Json.read room (Json.print .indented (ofReports reports)) =
        .ok (ordered (ofReports reports)) :=
  Json.read_print (printable_ofReports h 0) .indented

theorem carries_ordered : Carries (ordered (ofReports reports)) reports :=
  (carries_ofReports h).ordered

/-- Of reports with one text the same is said. -/
theorem sameContents_of_text_eq {reports' : List Report} (h' : AreMade reports')
    (htext : text reports' = text reports) : List.Forall₂ SameContents reports reports' := by
  rw [text_eq h, text_eq h'] at htext
  have hroom := NestingLimits.allow_usual.json.mono (show 5 ≤ 983 by decide)
  have hread := (writes_print h).2 _ hroom
  rw [← Except.ok.inj htext, (writes_print h').2 _ hroom] at hread
  exact (carries_ordered h).same (Except.ok.inj hread ▸ carries_ordered h')

end

/-- **The JSON report is total and lossless.** The payload of every list
of metrics, under any settings, has the published shape, and so it is
never refused. Its text is standard JSON, and decoding it gives data that
carry the reports, each in its place with all that was found, wherever
there is room for five levels. So two texts are the same only if the same
was found. -/
theorem text_lossless (s : Settings) (ms : List Metric) :
    Document.reportShape.faults (ofReports (ms.map (Metric.check s))) = [] ∧
    (∃ t d, text (ms.map (Metric.check s)) = .ok t ∧ Json.Writes d t ∧
      (∀ room : NestingLimit.Room, room.Allows 5 → Json.read room t = .ok d) ∧
      Carries d (ms.map (Metric.check s))) ∧
    ∀ (s' : Settings) (ms' : List Metric),
      text (ms'.map (Metric.check s')) = text (ms.map (Metric.check s)) →
      List.Forall₂ SameContents (ms.map (Metric.check s)) (ms'.map (Metric.check s')) := by
  have hmade := areMade_check s ms
  obtain ⟨hwrites, hread⟩ := writes_print hmade
  exact ⟨has_reportShape hmade, ⟨_, _, text_eq hmade, hwrites, hread, carries_ordered hmade⟩,
    fun s' ms' => sameContents_of_text_eq hmade (areMade_check s' ms')⟩

/-- A metric with a formula is reported the same, whether or not a formula
is required: one text, so the same was found. The text is read where there
is room for many levels. -/
theorem text_lossless_optional :
    text ([({ name := "Uptime", formula := "A/B" } : Metric)].map
        (Metric.check { formulaRequired := false })) =
      text ([({ name := "Uptime", formula := "A/B" } : Metric)].map (Metric.check {})) ∧
    List.Forall₂ SameContents
      ([({ name := "Uptime", formula := "A/B" } : Metric)].map (Metric.check {}))
      ([({ name := "Uptime", formula := "A/B" } : Metric)].map
        (Metric.check { formulaRequired := false })) ∧
    ∃ t d, text ([({ name := "Uptime", formula := "A/B" } : Metric)].map (Metric.check {})) =
      .ok t ∧ Json.read NestingLimits.usual.json t = .ok d := by
  have hcheck : Metric.check { formulaRequired := false } { name := "Uptime", formula := "A/B" } =
      Metric.check {} { name := "Uptime", formula := "A/B" } := rfl
  have htext : text ([({ name := "Uptime", formula := "A/B" } : Metric)].map
        (Metric.check { formulaRequired := false })) =
      text ([({ name := "Uptime", formula := "A/B" } : Metric)].map (Metric.check {})) := by
    rw [List.map_singleton, hcheck, List.map_singleton]
  obtain ⟨-, ⟨t, d, ht, -, hread, -⟩, hsame⟩ :=
    text_lossless {} [{ name := "Uptime", formula := "A/B" }]
  exact ⟨htext, hsame { formulaRequired := false } [{ name := "Uptime", formula := "A/B" }] htext,
    t, d, ht, hread _ (NestingLimits.allow_usual.json.mono (by decide))⟩

end MetricAudit.Rendering.Payload
