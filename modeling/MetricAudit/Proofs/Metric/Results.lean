/-
MetricAudit.Proofs.Metric.Results — no failure is lost among the results
of a metric.

The verdicts on the declarations are added one by one to the results,
where a verdict meets the earlier ones under its field. Two facts about
one addition carry everything:

* it is valid exactly when the results were and the verdict is
  (`valid_add`), so a run over all declarations is valid exactly when
  every one of them is (`valid_foldl_add`);
* on the results of the declarations so far it gives the results of the
  declarations with one more (`add_entries`), so a run gives an entry
  for each label, with the first failure of its declarations
  (`foldl_add`).

`check_keeps_every_failure` puts them together for the report.
-/
import Mathlib.Data.List.Nodup
import MetricAudit.Metric.Report

namespace MetricAudit

open Text (strip)

/-! ## Lists without repetitions -/

/-- The first occurrences in a list are distinct. -/
theorem nodup_eraseDups : ∀ xs : List Text, xs.eraseDups.Nodup
  | [] => List.nodup_nil
  | x :: xs => by
      have hle := List.length_filter_le (fun y => !y == x) xs
      rw [List.eraseDups_cons, List.nodup_cons]
      refine ⟨?_, nodup_eraseDups _⟩
      rw [List.mem_eraseDups, List.mem_filter]
      simp
termination_by xs => xs.length

/-- A further element counts unless it occurred. -/
theorem eraseDups_concat (xs : List Text) (x : Text) :
    (xs ++ [x]).eraseDups = if x ∈ xs then xs.eraseDups else xs.eraseDups ++ [x] := by
  rw [List.eraseDups_append]
  by_cases hx : x ∈ xs <;> simp [List.removeAll, hx, List.eraseDups_cons]

/-! ## Deciding verdicts -/

/-- The verdict that decides among several: the first failure, and the
last verdict where none fails. -/
def Verdict.deciding (verdicts : List Verdict) : Verdict :=
  (verdicts.find? fun v => !v.valid).getD (verdicts.getLast?.getD .fine)

/-- A failure stays, and anything else gives way to the next verdict. -/
theorem Verdict.deciding_concat (vs : List Verdict) (v : Verdict) :
    deciding (vs ++ [v]) = if (deciding vs).valid then v else deciding vs := by
  unfold deciding
  rw [List.find?_append]
  cases hfind : vs.find? fun v => !v.valid with
  | some u =>
    have hu := List.find?_some hfind
    simp only [Bool.not_eq_true'] at hu
    simp [hu]
  | none =>
    have hlast : (vs.getLast?.getD .fine).valid = true := by
      rcases List.eq_nil_or_concat vs with rfl | ⟨front, u, rfl⟩
      · rfl
      · simpa using List.find?_eq_none.mp hfind u (by simp)
    cases hv : v.valid <;> simp [hlast, hv]

/-! ## Labels -/

namespace Declaration

/-- What a declaration goes by: its symbol without the blanks around it,
or a question mark where nothing is left. -/
def label (d : Declaration) : Text :=
  if strip d.symbol = [] then "?" else strip d.symbol

/-- The field of the declarations with a label. -/
def labelField (label : Text) : Text := "variables." ++ label

theorem field_eq (d : Declaration) : d.field = labelField d.label := by
  unfold field label labelField
  cases h : strip d.symbol with
  | nil => rfl
  | cons c cs => rfl

theorem labelField_inj {l l' : Text} : labelField l = labelField l' ↔ l = l' :=
  List.append_right_inj _

/-- The labels of some declarations, each where it first appears. -/
def labels (declared : List Declaration) : List Text := (declared.map label).eraseDups

theorem nodup_labels (declared : List Declaration) : (labels declared).Nodup :=
  nodup_eraseDups _

theorem labels_concat (declared : List Declaration) (d : Declaration) :
    labels (declared ++ [d]) =
      if d.label ∈ labels declared then labels declared
      else labels declared ++ [d.label] := by
  simp only [labels, List.map_append, List.map_cons, List.map_nil, eraseDups_concat,
    List.mem_eraseDups]

/-- The verdict on the declarations with a label. -/
def outcome (declared : List Declaration) (label : Text) : Verdict :=
  .deciding ((declared.filter (·.label = label)).map verdict)

/-- The verdict on a declaration is valid when those on its parts are. -/
theorem valid_verdict_iff (d : Declaration) :
    d.verdict.valid = true ↔
      (Field.checkSymbol d.symbol).valid = true ∧
        (Field.checkVariableDescription d.description).valid = true := by
  unfold verdict
  cases h : (Field.checkSymbol d.symbol).valid <;> simp [h]

/-- One more declaration changes the outcome of its own label only, and
that only where none failed before. -/
theorem outcome_concat (declared : List Declaration) (d : Declaration) (l : Text) :
    outcome (declared ++ [d]) l =
      if d.label = l then
        if (outcome declared l).valid then d.verdict else outcome declared l
      else outcome declared l := by
  unfold outcome
  by_cases hl : d.label = l
  · have hfilter : [d].filter (·.label = l) = [d] := by simp [hl]
    rw [List.filter_append, hfilter, List.map_append, List.map_singleton,
      Verdict.deciding_concat, if_pos hl]
  · have hfilter : [d].filter (·.label = l) = [] := by simp [hl]
    rw [List.filter_append, hfilter, List.append_nil, if_neg hl]

/-- There is nothing against a label that no declaration has. -/
theorem outcome_of_not_mem {declared : List Declaration} {l : Text}
    (h : l ∉ labels declared) : outcome declared l = .fine := by
  have hnone : declared.filter (·.label = l) = [] := by
    rw [List.filter_eq_nil_iff]
    intro d hd hl
    refine h (List.mem_eraseDups.mpr (List.mem_map.mpr ⟨d, hd, ?_⟩))
    simpa using hl
  rw [outcome, hnone]
  rfl

/-- The entries of some declarations: one for each label. -/
def entries (declared : List Declaration) : Results :=
  (labels declared).map fun l => (labelField l, outcome declared l)

end Declaration

/-! ## One addition -/

namespace Results

/-- An addition is valid when the results were and the verdict is. -/
theorem valid_add (field : Text) (verdict : Verdict) (r : Results) :
    valid (add field verdict r) = (valid r && verdict.valid) := by
  induction r with
  | nil => simp [add, valid]
  | cons entry rest ih =>
    obtain ⟨f, v⟩ := entry
    rw [add]
    split
    · cases hv : v.valid <;> simp [valid, hv, Bool.and_comm]
    · simp only [valid, List.all_cons] at ih ⊢
      rw [ih, Bool.and_assoc]

/-- Results under other fields stay as they are. -/
theorem add_append {field : Text} {verdict : Verdict} {base : Results}
    (h : field ∉ base.map Prod.fst) (r : Results) :
    add field verdict (base ++ r) = base ++ add field verdict r := by
  induction base with
  | nil => rfl
  | cons entry rest ih =>
    obtain ⟨f, v⟩ := entry
    simp only [List.map_cons, List.mem_cons, not_or] at h
    rw [List.cons_append, add, if_neg (Ne.symm h.1), ih h.2, List.cons_append]

/-- An addition to results that are given label by label. -/
theorem add_map (outcome : Text → Verdict) (l : Text) (verdict : Verdict)
    {ls : List Text} (hls : ls.Nodup) :
    add (Declaration.labelField l) verdict
        (ls.map fun x => (Declaration.labelField x, outcome x)) =
      if l ∈ ls then
        ls.map fun x => (Declaration.labelField x,
          if l = x then if (outcome x).valid then verdict else outcome x else outcome x)
      else
        (ls.map fun x => (Declaration.labelField x, outcome x))
          ++ [(Declaration.labelField l, verdict)] := by
  induction ls with
  | nil => rfl
  | cons x xs ih =>
    obtain ⟨hx, hxs⟩ := List.nodup_cons.mp hls
    simp only [List.map_cons, add, Declaration.labelField_inj]
    by_cases hl : x = l
    · subst hl
      have hrest : xs.map (fun y => (Declaration.labelField y,
          if x = y then if (outcome y).valid then verdict else outcome y else outcome y)) =
          xs.map fun y => (Declaration.labelField y, outcome y) := by
        apply List.map_congr_left
        intro y hy
        have hne : x ≠ y := fun h => hx (h ▸ hy)
        rw [if_neg hne]
      simp [hrest]
    · have hl' : l ≠ x := Ne.symm hl
      rw [if_neg hl, ih hxs]
      by_cases hmem : l ∈ xs <;> simp [hmem, hl']

end Results

namespace Declaration

/-- Adding a declaration to the entries of others gives the entries of
them all. -/
theorem add_entries (declared : List Declaration) (d : Declaration) :
    (entries declared).add d.field d.verdict = entries (declared ++ [d]) := by
  unfold entries
  rw [field_eq, Results.add_map _ _ _ (nodup_labels declared), labels_concat]
  split
  · simp only [outcome_concat]
  · rename_i hnew
    have hsame : ∀ l ∈ labels declared,
        (labelField l, outcome declared l) = (labelField l, outcome (declared ++ [d]) l) := by
      intro l hl
      have hne : d.label ≠ l := fun h => hnew (h ▸ hl)
      rw [outcome_concat, if_neg hne]
    rw [List.map_append, List.map_congr_left hsame, List.map_singleton, outcome_concat,
      outcome_of_not_mem hnew, if_pos rfl]
    rfl

/-- **A run over all declarations.** Results under other fields stay in
front, and the entries of the declarations follow. -/
theorem foldl_add (base : Results) (h : ∀ l, labelField l ∉ base.map Prod.fst)
    (declared : List Declaration) :
    declared.foldl (fun r d => r.add d.field d.verdict) base = base ++ entries declared := by
  -- The entries of the declarations passed so far are carried along.
  suffices hrun : ∀ passed, declared.foldl (fun r d => r.add d.field d.verdict)
      (base ++ entries passed) = base ++ entries (passed ++ declared) by
    simpa [entries, labels] using hrun []
  induction declared with
  | nil => simp
  | cons d ds ih =>
    intro passed
    have hd : d.field ∉ base.map Prod.fst := by
      rw [field_eq]
      exact h d.label
    rw [List.foldl_cons, Results.add_append hd, add_entries, ih, List.append_assoc,
      List.singleton_append]

/-- A run is valid when it starts so and every declaration is. -/
theorem valid_foldl_add (declared : List Declaration) (r : Results) :
    (declared.foldl (fun r d => r.add d.field d.verdict) r).valid =
      (r.valid && declared.all (·.verdict.valid)) := by
  induction declared generalizing r with
  | nil => simp
  | cons d ds ih => rw [List.foldl_cons, ih, Results.valid_add, List.all_cons, Bool.and_assoc]

end Declaration

/-! ## The results of a metric -/

namespace Results

/-- The errors are those of the entries that are not valid. -/
theorem errors_eq (r : Results) :
    r.errors.map (fun e => (e.1, some e.2)) =
      (r.filter fun e => !e.2.valid).map fun e => (e.1, e.2.error) := by
  induction r with
  | nil => rfl
  | cons entry rest ih =>
    obtain ⟨f, v⟩ := entry
    simp only [errors] at ih ⊢
    cases herror : v.error with
    | none => simp [Verdict.valid, herror, ih]
    | some e => simp [Verdict.valid, herror, ih]

end Results

namespace Metric

open Declaration (labelField labels outcome entries)

/-- The results stand in the report whether the formats pass or not. -/
theorem results_check (s : Settings) (m : Metric) : (check s m).results = m.results s := by
  unfold check
  split <;> rfl

/-- The fields that every metric has. -/
def fieldNames : List Text :=
  ["name", "code", "description", "formula", "desired_threshold", "worst_case"]

theorem fields_fieldResults (s : Settings) (m : Metric) :
    (m.fieldResults s).map Prod.fst = fieldNames :=
  rfl

/-- The field of a label starts as no field of every metric does. -/
theorem labelField_not_mem_fieldNames (l : Text) : labelField l ∉ fieldNames := by
  have hfirst : ∀ f ∈ fieldNames, f.head? ≠ some 'v' := by decide
  intro h
  exact hfirst _ h rfl

/-- The results: the fields of every metric, the labels, the agreement
with the formula. -/
theorem results_eq (s : Settings) (m : Metric) :
    m.results s =
      m.fieldResults s ++ entries m.declared
        ++ [(("variables" : Text), Declaration.check m.formula m.declared)] := by
  rw [← Declaration.foldl_add (m.fieldResults s) labelField_not_mem_fieldNames m.declared]
  rfl

/-- No field stands twice among the results. -/
theorem nodup_fields (s : Settings) (m : Metric) : ((m.results s).map Prod.fst).Nodup := by
  have hlabels : (entries m.declared).map Prod.fst = (labels m.declared).map labelField := by
    simp [entries]
  have hlast : ∀ l, labelField l ≠ ("variables" : Text) := by
    intro l h
    have htenth := congrArg (fun f : Text => f[9]?) h
    cases htenth
  rw [results_eq, List.map_append, List.map_append, fields_fieldResults, hlabels,
    List.map_singleton, List.append_assoc, List.nodup_append, List.nodup_append]
  refine ⟨by decide, ⟨?_, List.nodup_singleton _, ?_⟩, ?_⟩
  · exact (Declaration.nodup_labels m.declared).map fun l l' h => Declaration.labelField_inj.mp h
  · rintro f hf g hg
    obtain ⟨l, _, rfl⟩ := List.mem_map.mp hf
    rw [List.mem_singleton.mp hg]
    exact hlast l
  · rintro f hf g hg rfl
    rcases List.mem_append.mp hg with hg | hg
    · obtain ⟨l, _, rfl⟩ := List.mem_map.mp hg
      exact labelField_not_mem_fieldNames l hf
    · have hnew : ("variables" : Text) ∉ fieldNames := by decide
      have hf' : f = ("variables" : Text) := List.mem_singleton.mp hg
      exact hnew (hf' ▸ hf)

/-- A metric is valid when each of its parts is. -/
theorem valid_check_iff (s : Settings) (m : Metric) :
    (check s m).valid = true ↔
      ((Field.checkName m.name).valid = true ∧ (Field.checkCode m.code).valid = true ∧
        (Field.checkDescription m.description).valid = true ∧
        (m.formulaVerdict s).valid = true ∧ (m.desiredVerdict s).valid = true ∧
        (m.worstVerdict s).valid = true) ∧
      (∀ d ∈ m.declared, d.verdict.valid = true) ∧
      (Declaration.check m.formula m.declared).valid = true := by
  have hrun := Declaration.valid_foldl_add m.declared (m.fieldResults s)
  have hresults : (check s m).valid =
      ((m.declared.foldl (fun r d => r.add d.field d.verdict) (m.fieldResults s)).valid &&
        (Declaration.check m.formula m.declared).valid) := by
    rw [Report.valid, results_check, results, Results.valid, List.all_append]
    simp [Results.valid]
  rw [hresults, hrun]
  simp only [Results.valid, fieldResults, List.all_cons, List.all_nil, Bool.and_true,
    Bool.and_eq_true, List.all_eq_true, and_assoc]

/-- The formula and both thresholds of a metric are accepted. -/
def Accepted (s : Settings) (m : Metric) : Prop :=
  (m.formulaVerdict s).valid = true ∧ (m.desiredVerdict s).valid = true ∧
    (m.worstVerdict s).valid = true

theorem passesFormats_iff {s : Settings} {m : Metric} :
    m.passesFormats s = true ↔ m.Accepted s := by
  rw [passesFormats, Bool.and_eq_true, Bool.and_eq_true, and_assoc]
  rfl

/-- What the report on an accepted metric works out. -/
theorem derived_of_accepted {s : Settings} {m : Metric} (h : m.Accepted s) :
    (check s m).symbols = Formula.symbols m.formula ∧
      (check s m).denominators = Formula.denominators m.formula ∧ (check s m).fixed = m.fixed := by
  rw [check, if_pos (passesFormats_iff.mpr h)]
  exact ⟨rfl, rfl, rfl⟩

/-- **No failure is lost.** A report is valid exactly when every part of
the metric is accepted, each single declaration among them. Its results
are those on the fields of every metric, one for each label where it
first appears, decided by the declarations that have it, and the
agreement of the declarations with the formula; no field stands twice;
and the errors are those of the results that are not valid, in order. -/
theorem check_keeps_every_failure (s : Settings) (m : Metric) :
    ((check s m).valid = true ↔
      ((Field.checkName m.name).valid = true ∧ (Field.checkCode m.code).valid = true ∧
        (Field.checkDescription m.description).valid = true ∧
        (m.formulaVerdict s).valid = true ∧ (m.desiredVerdict s).valid = true ∧
        (m.worstVerdict s).valid = true) ∧
      (∀ d ∈ m.declared, (Field.checkSymbol d.symbol).valid = true ∧
        (Field.checkVariableDescription d.description).valid = true) ∧
      (Declaration.check m.formula m.declared).valid = true) ∧
    (check s m).results =
      ([("name", Field.checkName m.name), ("code", Field.checkCode m.code),
        ("description", Field.checkDescription m.description),
        ("formula", m.formulaVerdict s), ("desired_threshold", m.desiredVerdict s),
        ("worst_case", m.worstVerdict s)] : Results)
      ++ ((m.declared.map Declaration.label).eraseDups.map fun l =>
        (labelField l,
          Verdict.deciding ((m.declared.filter (·.label = l)).map Declaration.verdict)))
      ++ ([("variables", Declaration.check m.formula m.declared)] : Results) ∧
    ((check s m).results.map Prod.fst).Nodup ∧
    (check s m).results.errors.map (fun e => (e.1, some e.2)) =
      ((check s m).results.filter fun e => !e.2.valid).map fun e => (e.1, e.2.error) := by
  refine ⟨?_, ?_, ?_, Results.errors_eq _⟩
  · simp only [valid_check_iff, Declaration.valid_verdict_iff]
  · rw [results_check, results_eq]
    rfl
  · rw [results_check]
    exact nodup_fields s m

end Metric
end MetricAudit
