/-
MetricAudit.Proofs.Rendering.Human — which reports can be printed.

Only the names of fields bring tags into a report that the program has
not written itself: names, messages and reasons are literal text, and
what is listed of a formula has no brackets. The names that every metric
has are plain, so it comes down to the declared symbols
(`hasUnmatched_sheet_iff`).

A renderer is assumed to refuse only what has a closing tag without a
match (`RefusesOnlyUnmatched`). Then reports are printed where no
declared symbol brings such a tag, and always where none has an opening
bracket (`exists_text_iff`). A valid symbol has none.
-/
import MetricAudit.Proofs.Formula.Spacing
import MetricAudit.Proofs.Metric.Fixed
import MetricAudit.Proofs.Metric.Results
import MetricAudit.Proofs.Number.Digits
import MetricAudit.Proofs.Rendering.Tag
import MetricAudit.Proofs.Text.Strip
import MetricAudit.Proofs.Threshold.RoundTrip
import MetricAudit.Rendering.Console
import MetricAudit.Rendering.Human

namespace MetricAudit.Rendering

/-! ## Lists of results -/

theorem exists_mapM_ok_iff {ε α β : Type} {f : α → Except ε β} {xs : List α} :
    (∃ ys, xs.mapM f = .ok ys) ↔ ∀ x ∈ xs, ∃ y, f x = .ok y := by
  induction xs with
  | nil => simp [pure, Except.pure]
  | cons x xs ih =>
    rw [List.mapM_cons, List.forall_mem_cons, ← ih]
    cases hx : f x <;> cases hxs : xs.mapM f <;> simp [bind, Except.bind, pure, Except.pure]

/-! ## Content without tags -/

section
variable (canonical : Text → Text)

theorem hasUnmatched_of_untagged {c : Content} (h : ∀ s ∈ c, s.tags = []) :
    c.hasUnmatched canonical = false := by
  rw [Content.hasUnmatched, List.flatMap_eq_nil_iff.mpr h]
  rfl

/-- Marked-up text without an opening bracket. -/
theorem hasUnmatched_of_not_mem {s : Text} (h : '[' ∉ s) :
    Content.hasUnmatched canonical [.markup s] = false :=
  hasUnmatched_of_untagged canonical (List.forall_mem_singleton.mpr (Markup.tags_of_not_mem h))

/-- Content whose tags are one and the one that closes it. -/
theorem hasUnmatched_of_pair {c : Content} (name : Text)
    (h : c.flatMap Segment.tags = [name, '/' :: name]) (hname : Markup.isStyleName name = true) :
    c.hasUnmatched canonical = false := by
  rw [Content.hasUnmatched, h]
  exact Markup.hasUnmatched_pair canonical hname

theorem hasUnmatched_blank : Printed.blank.hasUnmatched canonical = false := rfl

theorem hasUnmatched_line (c : Content) :
    (Printed.line c).hasUnmatched canonical = c.hasUnmatched canonical := by
  simp [Printed.hasUnmatched, Printed.contents]

end

namespace Human

/-! ## Cells -/

section
variable (canonical : Text → Text)

theorem hasUnmatched_status (v : Verdict) : (status v).hasUnmatched canonical = false := by
  unfold status
  split
  · exact hasUnmatched_of_pair canonical "red" rfl (by decide)
  · exact hasUnmatched_of_pair canonical "yellow" rfl (by decide)
  · exact hasUnmatched_of_pair canonical "green" rfl (by decide)
  · exact hasUnmatched_of_pair canonical "green" rfl (by decide)

theorem hasUnmatched_title (r : Report) : (sheet r).title.hasUnmatched canonical = false := by
  unfold sheet
  dsimp only
  split
  · exact hasUnmatched_of_pair canonical "green" rfl (by decide)
  · exact hasUnmatched_of_pair canonical "red" rfl (by decide)

/-- A cell has an unmatched tag only where it is the name of a field. -/
theorem hasUnmatched_row_iff (field : Text) (v : Verdict) :
    (∃ c ∈ row field v, c.hasUnmatched canonical = true) ↔
      Content.hasUnmatched canonical [.markup field] = true := by
  have hmessage : ∀ s, Content.hasUnmatched canonical [.literal s] = false := fun _ => rfl
  simp [row, hasUnmatched_status, hmessage]

theorem hasUnmatched_sheet_iff (r : Report) :
    (Printed.sheet (sheet r)).hasUnmatched canonical = true ↔
      ∃ e ∈ r.results, Content.hasUnmatched canonical [.markup e.1] = true := by
  have hrows : (sheet r).rows = r.results.map fun e => row e.1 e.2 := rfl
  have hcells : (∃ c ∈ (sheet r).rows.flatten, c.hasUnmatched canonical = true) ↔
      ∃ e ∈ r.results, ∃ c ∈ row e.1 e.2, c.hasUnmatched canonical = true := by
    simp only [hrows, ← List.flatMap_def, List.mem_flatMap]
    exact ⟨fun ⟨c, ⟨e, he, hc⟩, h⟩ => ⟨e, he, c, hc, h⟩,
      fun ⟨e, he, c, hc, h⟩ => ⟨c, ⟨e, he, hc⟩, h⟩⟩
  simp only [Printed.hasUnmatched, Printed.contents, List.any_eq_true, List.exists_mem_cons_iff,
    hasUnmatched_title, Bool.false_eq_true, false_or, hcells, hasUnmatched_row_iff]

/-! ## Lines -/

theorem hasUnmatched_symbols {label : Text} {xs : List Text} (hlabel : '[' ∉ label)
    (hxs : ∀ x ∈ xs, Formula.isSymbol x = true) :
    ∀ c ∈ symbols label xs, c.hasUnmatched canonical = false := by
  unfold symbols
  split
  · exact fun c hc => nomatch hc
  · refine List.forall_mem_singleton.mpr (hasUnmatched_of_not_mem canonical fun hmem => ?_)
    simp only [List.mem_append, or_assoc] at hmem
    rcases hmem with hmem | hmem | hmem | hmem
    · exact absurd hmem (by decide)
    · exact hlabel hmem
    · exact absurd hmem (by decide)
    · rcases Text.mem_join hmem with hmem | ⟨x, hx, hmem⟩
      · exact absurd hmem (by decide)
      · cases Formula.isSymbolChar_of_mem (hxs x hx) '[' hmem

theorem hasUnmatched_fixedDetail {v : FixedVariable} (hsymbol : Formula.isSymbol v.symbol = true)
    (hvalue : v.value.isFinite = true) : (fixedDetail v).hasUnmatched canonical = false := by
  refine hasUnmatched_of_untagged canonical ?_
  simp only [fixedDetail, List.forall_mem_cons, Segment.tags, List.not_mem_nil, false_imp_iff,
    implies_true, and_true, true_and]
  refine ⟨Markup.tags_of_not_mem fun hmem => ?_, rfl⟩
  simp only [List.mem_append, or_assoc] at hmem
  rcases hmem with hmem | hmem | hmem | hmem | hmem
  · exact absurd hmem (by decide)
  · cases Formula.isSymbolChar_of_mem hsymbol '[' hmem
  · exact absurd hmem (by decide)
  · cases Binary64.isNumeralChar_of_mem_plain hvalue '[' hmem
  · exact absurd hmem (by decide)

theorem hasUnmatched_caseDetail (c : Threshold.Case) :
    Content.hasUnmatched canonical [.markup ("  Threshold case: " ++ c.name)] = false :=
  hasUnmatched_of_not_mem canonical (by cases c <;> decide)

/-- Plain text between a tag and the one that closes it. -/
theorem hasUnmatched_enclosed (name : Text) {s : Text} (hopen : Markup.isTag name = true)
    (hclose : Markup.isTag ('/' :: name) = true) (hname : Markup.isStyleName name = true)
    (hs : ∀ c ∈ s, Markup.isPlain c = true) :
    Content.hasUnmatched canonical
      [.markup ('[' :: (name ++ ']' :: (s ++ '[' :: ('/' :: name ++ [']']))))] = false := by
  refine hasUnmatched_of_pair canonical name ?_ hname
  rw [List.flatMap_singleton]
  exact Markup.tags_enclosed name hopen hclose hs

theorem isPlain_of_mem_ofNat {n : Nat} : ∀ c ∈ Text.ofNat n, Markup.isPlain c = true := by
  intro c hc
  have hdigit := Text.isAsciiDigit_of_mem_ofNat hc
  rw [Markup.isPlain, Bool.and_eq_true, bne_iff_ne, bne_iff_ne]
  constructor <;> (rintro rfl; cases hdigit)

theorem isPlain_of_mem_count (reports : List Report) :
    ∀ c ∈ count reports, Markup.isPlain c = true := by
  have hchecked : (" metric(s) checked, " : Text).all Markup.isPlain = true := by decide
  have hinvalid : (" invalid" : Text).all Markup.isPlain = true := by decide
  intro c hc
  simp only [count, List.mem_append, or_assoc] at hc
  rcases hc with hc | hc | hc | hc
  · exact isPlain_of_mem_ofNat c hc
  · exact List.all_eq_true.mp hchecked c hc
  · exact isPlain_of_mem_ofNat c hc
  · exact List.all_eq_true.mp hinvalid c hc

theorem hasUnmatched_summary (reports : List Report) :
    (summary reports).hasUnmatched canonical = false := by
  have hcount := isPlain_of_mem_count reports
  unfold summary
  split
  · rw [List.append_assoc]
    exact hasUnmatched_enclosed canonical "green" (by decide) (by decide) (by decide) hcount
  · rw [List.append_assoc]
    exact hasUnmatched_enclosed canonical "red" (by decide) (by decide) (by decide) hcount

end

/-! ## Reports -/

section
variable (st : Settings) (m : Metric)

/-- What a report works out is of the formula, or there is nothing. -/
theorem derived_check :
    (∀ x ∈ (m.check st).symbols, Formula.isSymbol x = true) ∧
    (∀ x ∈ (m.check st).denominators, Formula.isSymbol x = true) ∧
    ∀ v ∈ (m.check st).fixed, Formula.isSymbol v.symbol = true ∧ v.value.isFinite = true := by
  have hdenominators : ∀ x ∈ Formula.denominators m.formula, Formula.isSymbol x = true :=
    fun x hx => Formula.isSymbol_of_mem_symbols
      (Formula.divisors_subset _ (Formula.mem_denominators_iff.mp hx))
  by_cases h : m.Accepted st
  · obtain ⟨hsymbols, hdivides, hfixed⟩ := Metric.derived_of_accepted h
    rw [hsymbols, hdivides, hfixed]
    exact ⟨fun x hx => Formula.isSymbol_of_mem_symbols hx, hdenominators, fun v hv =>
      ⟨hdenominators _ (FixedVariable.symbol_mem_denominators hv),
        FixedVariable.isFinite_of_mem_infer hv⟩⟩
  · have hnothing : m.check st = { metric := m, results := m.results st } :=
      if_neg fun hpasses => h (Metric.passesFormats_iff.mp hpasses)
    rw [hnothing]
    simp

theorem hasUnmatched_details (canonical : Text → Text) :
    ∀ c ∈ details (m.check st), c.hasUnmatched canonical = false := by
  obtain ⟨hsymbols, hdenominators, hfixed⟩ := derived_check st m
  intro c hc
  simp only [details, List.mem_append, or_assoc] at hc
  rcases hc with hc | hc | hc | hc
  · exact hasUnmatched_symbols canonical (by decide) hsymbols c hc
  · exact hasUnmatched_symbols canonical (by decide) hdenominators c hc
  · obtain ⟨v, hv, rfl⟩ := List.mem_map.mp hc
    exact hasUnmatched_fixedDetail canonical (hfixed v hv).1 (hfixed v hv).2
  · obtain ⟨case, -, rfl⟩ := Option.map_eq_some_iff.mp (Option.mem_toList.mp hc)
    exact hasUnmatched_caseDetail canonical _

end

/-! ## Fields -/

/-- The fields of a report are those that every metric has, and those of
the declarations. -/
theorem field_cases {st : Settings} {m : Metric} {e : Text × Verdict}
    (he : e ∈ (m.check st).results) :
    '[' ∉ e.1 ∨ ∃ d ∈ m.declared, d.field = e.1 := by
  rw [Metric.results_check, Metric.results_eq] at he
  rcases List.mem_append.mp he with he | he
  · rcases List.mem_append.mp he with he | he
    · have hname : e.1 ∈ Metric.fieldNames := by
        rw [← Metric.fields_fieldResults st m]
        exact List.mem_map_of_mem he
      have hplain : ∀ f ∈ Metric.fieldNames, '[' ∉ f := by decide
      exact Or.inl (hplain e.1 hname)
    · obtain ⟨l, hl, rfl⟩ := List.mem_map.mp he
      obtain ⟨d, hd, rfl⟩ := List.mem_map.mp (List.mem_eraseDups.mp hl)
      exact Or.inr ⟨d, hd, d.field_eq⟩
  · have hplain : '[' ∉ ("variables" : Text) := by decide
    rw [List.mem_singleton.mp he]
    exact Or.inl hplain

/-- Every declaration has its field in the report. -/
theorem exists_mem_results (st : Settings) {m : Metric} {d : Declaration}
    (hd : d ∈ m.declared) : ∃ e ∈ (m.check st).results, e.1 = d.field := by
  have hlabel : d.label ∈ Declaration.labels m.declared :=
    List.mem_eraseDups.mpr (List.mem_map_of_mem hd)
  rw [Metric.results_check, Metric.results_eq]
  refine ⟨(Declaration.labelField d.label, Declaration.outcome m.declared d.label), ?_,
    d.field_eq.symm⟩
  exact List.mem_append_left _ (List.mem_append_right _ (List.mem_map_of_mem hlabel))

/-- The field of a symbol without an opening bracket has none. -/
theorem not_mem_field {d : Declaration} (h : '[' ∉ d.symbol) : '[' ∉ d.field := by
  unfold Declaration.field
  split
  · decide
  · intro hmem
    rcases List.mem_append.mp hmem with hmem | hmem
    · revert hmem
      decide
    · obtain ⟨l, r, -, -, hs⟩ := Text.exists_eq_strip d.symbol
      apply h
      rw [hs]
      simp [hmem]

/-- The name of a declared field has a closing tag without a match. -/
def IsUnmatched (canonical : Text → Text) (d : Declaration) : Prop :=
  Content.hasUnmatched canonical [.markup d.field] = true

instance (canonical : Text → Text) (d : Declaration) : Decidable (IsUnmatched canonical d) :=
  inferInstanceAs (Decidable (_ = _))

theorem not_isUnmatched_of_not_mem (canonical : Text → Text) {d : Declaration}
    (h : '[' ∉ d.symbol) : ¬IsUnmatched canonical d := by
  rw [IsUnmatched, hasUnmatched_of_not_mem canonical (not_mem_field h)]
  exact Bool.false_ne_true

/-- A report has an unmatched tag exactly if a declared field has one. -/
theorem hasUnmatched_ofReport_iff (canonical : Text → Text) (st : Settings) (m : Metric) :
    (∃ p ∈ ofReport (m.check st), p.hasUnmatched canonical = true) ↔
      ∃ d ∈ m.declared, IsUnmatched canonical d := by
  have hfields : (∃ e ∈ (m.check st).results,
      Content.hasUnmatched canonical [.markup e.1] = true) ↔
        ∃ d ∈ m.declared, IsUnmatched canonical d := by
    constructor
    · rintro ⟨e, he, hunmatched⟩
      rcases field_cases he with hplain | ⟨d, hd, hfield⟩
      · exact nomatch (hasUnmatched_of_not_mem canonical hplain).symm.trans hunmatched
      · rw [← hfield] at hunmatched
        exact ⟨d, hd, hunmatched⟩
    · rintro ⟨d, hd, hunmatched⟩
      obtain ⟨e, he, hfield⟩ := exists_mem_results st hd
      rw [IsUnmatched, ← hfield] at hunmatched
      exact ⟨e, he, hunmatched⟩
  rw [← hfields, ← hasUnmatched_sheet_iff]
  refine ⟨?_, fun h => ⟨_, List.mem_cons_self, h⟩⟩
  rintro ⟨p, hp, hunmatched⟩
  rcases List.mem_cons.mp hp with rfl | hp
  · exact hunmatched
  · rcases List.mem_append.mp hp with hp | hp
    · obtain ⟨c, hc, rfl⟩ := List.mem_map.mp hp
      rw [hasUnmatched_line, hasUnmatched_details st m canonical c hc] at hunmatched
      cases hunmatched
    · rw [List.mem_singleton.mp hp, hasUnmatched_blank] at hunmatched
      cases hunmatched

theorem hasUnmatched_printed_iff (canonical : Text → Text) (st : Settings) (ms : List Metric) :
    (∃ p ∈ printed (ms.map (Metric.check st)), p.hasUnmatched canonical = true) ↔
      ∃ m ∈ ms, ∃ d ∈ m.declared, IsUnmatched canonical d := by
  simp only [← hasUnmatched_ofReport_iff canonical st]
  constructor
  · rintro ⟨p, hp, hunmatched⟩
    rcases List.mem_append.mp hp with hp | hp
    · obtain ⟨r, hr, hp⟩ := List.mem_flatMap.mp hp
      obtain ⟨m, hm, rfl⟩ := List.mem_map.mp hr
      exact ⟨m, hm, p, hp, hunmatched⟩
    · rw [List.mem_singleton.mp hp, hasUnmatched_line, hasUnmatched_summary] at hunmatched
      cases hunmatched
  · rintro ⟨m, hm, p, hp, hunmatched⟩
    have hmem : p ∈ (ms.map (Metric.check st)).flatMap ofReport :=
      List.mem_flatMap.mpr ⟨_, List.mem_map_of_mem hm, hp⟩
    exact ⟨p, List.mem_append_left _ hmem, hunmatched⟩

/-! ## Texts -/

section
variable (renderer : Renderer) (color : Bool) (width : Nat)

/-- Of some things the renderer refuses only those that have a closing tag
without a match. -/
def RefusesOnlyUnmatched (ps : List Printed) : Prop :=
  ∀ p ∈ ps, ∀ refusal, renderer.print color width p = .error refusal →
    p.hasUnmatched renderer.canonical = true

/-- Of some things the renderer refuses all that have a closing tag without
a match. -/
def RefusesUnmatched (ps : List Printed) : Prop :=
  ∀ p ∈ ps, p.hasUnmatched renderer.canonical = true →
    ∃ refusal, renderer.print color width p = .error refusal

section
variable {renderer color width} {ps : List Printed}

/-- A renderer that prints just what has no unmatched tag. -/
theorem refuses_of_forall (h : ∀ p ∈ ps, (renderer.print color width p).toBool =
      !p.hasUnmatched renderer.canonical) :
    RefusesOnlyUnmatched renderer color width ps ∧ RefusesUnmatched renderer color width ps := by
  constructor
  · intro p hp refusal hrefusal
    have hprint := h p hp
    rw [hrefusal] at hprint
    cases hunmatched : p.hasUnmatched renderer.canonical with
    | true => rfl
    | false =>
      rw [hunmatched] at hprint
      cases hprint
  · intro p hp hunmatched
    have hprint := h p hp
    rw [hunmatched] at hprint
    cases hrefusal : renderer.print color width p with
    | ok s =>
      rw [hrefusal] at hprint
      cases hprint
    | error refusal => exact ⟨refusal, rfl⟩

end

theorem exists_text_iff_print (reports : List Report) :
    (∃ s, text renderer color width reports = .ok s) ↔
      ∀ p ∈ printed reports, ∃ s, renderer.print color width p = .ok s := by
  rw [← exists_mapM_ok_iff]
  unfold text
  cases (printed reports).mapM (renderer.print color width) with
  | ok parts => exact iff_of_true ⟨_, rfl⟩ ⟨parts, rfl⟩
  | error refusal => simp [bind, Except.bind]

/-- **Which reports are printed.** Take a renderer that refuses only what
has a closing tag without a match. It prints the reports on some metrics
where no declared symbol brings such a tag into its field, and always
where none has an opening bracket, whatever else is entered. One that
refuses all such tags prints them only then. -/
theorem exists_text_iff (st : Settings) (ms : List Metric)
    (h : RefusesOnlyUnmatched renderer color width (printed (ms.map (Metric.check st)))) :
    ((∀ m ∈ ms, ∀ d ∈ m.declared, ¬IsUnmatched renderer.canonical d) →
      ∃ s, text renderer color width (ms.map (Metric.check st)) = .ok s) ∧
    ((∀ m ∈ ms, ∀ d ∈ m.declared, '[' ∉ d.symbol) →
      ∃ s, text renderer color width (ms.map (Metric.check st)) = .ok s) ∧
    (RefusesUnmatched renderer color width (printed (ms.map (Metric.check st))) →
      ((∃ s, text renderer color width (ms.map (Metric.check st)) = .ok s) ↔
        ∀ m ∈ ms, ∀ d ∈ m.declared, ¬IsUnmatched renderer.canonical d)) := by
  have hiff := hasUnmatched_printed_iff renderer.canonical st ms
  have hshown : (∀ m ∈ ms, ∀ d ∈ m.declared, ¬IsUnmatched renderer.canonical d) →
      ∃ s, text renderer color width (ms.map (Metric.check st)) = .ok s := by
    intro hmatched
    refine (exists_text_iff_print ..).mpr fun p hp => ?_
    cases hprint : renderer.print color width p with
    | ok s => exact ⟨s, rfl⟩
    | error refusal =>
      obtain ⟨m, hm, d, hd, hunmatched⟩ := hiff.mp ⟨p, hp, h p hp refusal hprint⟩
      exact absurd hunmatched (hmatched m hm d hd)
  refine ⟨hshown, fun hplain => hshown fun m hm d hd =>
    not_isUnmatched_of_not_mem _ (hplain m hm d hd), fun hrefuses => ⟨?_, hshown⟩⟩
  intro htext m hm d hd hunmatched
  obtain ⟨p, hp, hunmatched⟩ := hiff.mpr ⟨m, hm, d, hd, hunmatched⟩
  obtain ⟨refusal, hrefusal⟩ := hrefuses p hp hunmatched
  obtain ⟨s, hs⟩ := (exists_text_iff_print ..).mp htext p hp
  exact nomatch hrefusal.symm.trans hs

end

/-- The console prints all but the sheet of a metric that declares a
closing tag. -/
theorem toBool_print_unopened :
    ∀ p ∈ printed [Metric.check {} { name := "Uptime", declared := [⟨"[/b]", "Hours"⟩] }],
      (Console.renderer.print false 120 p).toBool =
        !p.hasUnmatched Console.renderer.canonical := by
  decide +kernel

/-- On the console a declared symbol may have tags that match, and a name
may be whatever it is; a closing tag alone keeps a report from being
printed. -/
theorem exists_text_matched :
    let m : Metric := { name := "[/b] [b", declared := [⟨"[b]A[/b]", "Hours"⟩] }
    let m' : Metric := { name := "Uptime", declared := [⟨"[/b]", "Hours"⟩] }
    (∃ s, text Console.renderer false 120 ([m].map (Metric.check {})) = .ok s) ∧
      ¬∃ s, text Console.renderer false 120 ([m'].map (Metric.check {})) = .ok s := by
  intro m m'
  have hmatched : ∀ m₁ ∈ [m], ∀ d ∈ m₁.declared, ¬IsUnmatched Console.renderer.canonical d := by
    decide +kernel
  have hunmatched : ¬∀ m₁ ∈ [m'], ∀ d ∈ m₁.declared,
      ¬IsUnmatched Console.renderer.canonical d := by
    decide +kernel
  have hprinted := refuses_of_forall
    (show ∀ p ∈ printed ([m].map (Metric.check {})),
      (Console.renderer.print false 120 p).toBool =
        !p.hasUnmatched Console.renderer.canonical by decide +kernel)
  obtain ⟨honly, hall⟩ := refuses_of_forall toBool_print_unopened
  exact ⟨(exists_text_iff _ _ _ {} [m] hprinted.1).1 hmatched, fun hshown =>
    hunmatched (((exists_text_iff _ _ _ {} [m'] honly).2.2 hall).mp hshown)⟩

/-- A declared symbol that reads as a closing tag keeps the report on its
metric from being printed. The console refuses it, and nothing that has no
unmatched tag. -/
theorem text_unopened_field :
    let m : Metric := { name := "Uptime", declared := [⟨"[/b]", "Hours"⟩] }
    RefusesOnlyUnmatched Console.renderer false 120 (printed ([m].map (Metric.check {}))) ∧
      text Console.renderer false 120 ([m].map (Metric.check {})) =
        .error ⟨"MarkupError", "closing tag '[/b]' at position 10 doesn't match any open tag"⟩ := by
  intro m
  exact ⟨(refuses_of_forall toBool_print_unopened).1, by decide +kernel⟩

end Human
end MetricAudit.Rendering
