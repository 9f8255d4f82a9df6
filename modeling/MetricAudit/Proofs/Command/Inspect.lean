/-
MetricAudit.Proofs.Command.Inspect — the list of variables against the
report.

The command that lists the variables of a formula makes no report. It
asks of each symbol by itself whether the formula divides by it, and
looks for the symbol among the fixed variables. `formula_tells_report`
says that its output is what a report on a metric with the same formula
and thresholds tells (`reportedLine`), line by line, whatever else the
metric holds and whatever the settings are.

The command and the report differ in what they accept. The command
requires a formula, and reports under other settings may not; it gives no
verdict on thresholds, where a report works nothing out of refused ones.
So the statement is about a formula that is accepted where one is
required, and about accepted thresholds.
-/
import MetricAudit.Command.Run
import MetricAudit.Proofs.Metric.Inference
import MetricAudit.Proofs.Metric.Settings
import MetricAudit.Proofs.Threshold.RoundTrip
import MetricAudit.Rendering.Console

namespace MetricAudit

/-- At most one variable is fixed, so looking for one finds all. -/
theorem FixedVariable.toList_find?_infer (formula : Text) (desired worst : Option Text)
    (p : FixedVariable → Bool) :
    ((infer formula desired worst).find? p).toList = (infer formula desired worst).filter p := by
  unfold infer
  cases infer? formula desired worst with
  | none => rfl
  | some v => cases hv : p v <;> simp [hv]

namespace Command.Inspect

/-! ## What a report tells -/

/-- The value of a fixed variable, as it is told. -/
def fixedFlag (v : FixedVariable) : Text := "fixed=" ++ v.value.plain

/-- What a report tells of a variable: that it is a denominator, and the
values that it is fixed to. -/
def reportedFlags (r : Report) (symbol : Text) : List Text :=
  let denominator : List Text := if symbol ∈ r.denominators then ["denominator"] else []
  denominator ++ (r.fixed.filter (·.symbol == symbol)).map fixedFlag

/-- A variable with what a report tells of it. -/
def reportedLine (r : Report) (symbol : Text) : Text :=
  match reportedFlags r symbol with
  | [] => symbol
  | flags => symbol ++ " (" ++ Text.join ", " flags ++ ")"

/-- The arguments ask for the variables of a formula under thresholds. -/
def Asks (args : List Text) (formula : Text) (desired worst : Option Text) : Prop :=
  ∃ quiet verbose,
    Request.ofArguments args = .ok (.perform quiet verbose (.formula formula desired worst))

/-- The arguments of a request, with the formula behind two hyphens so
that it may start with one. -/
def commandLine (formula : Text) (desired worst : Option Text) : List Text :=
  let option (flag : Text) : Option Text → List Text
    | none => []
    | some value => [flag, value]
  "variables" :: (option "--desired" desired ++ option "--worst" worst ++
    (["--", formula] : List Text))

theorem asks_commandLine (formula : Text) (desired worst : Option Text) :
    Asks (commandLine formula desired worst) formula desired worst := by
  cases desired <;> cases worst <;> exact ⟨false, false, rfl⟩

/-! ## The same is told -/

section
variable {s : Settings} {m : Metric} (h : m.Accepted s)

include h

theorem variableFlags_eq (symbol : Text) :
    variableFlags m.formula m.fixed symbol = reportedFlags (m.check s) symbol := by
  obtain ⟨-, hdenominators, hfixed⟩ := Metric.derived_of_accepted h
  have hfound : ((m.fixed.find? (·.symbol == symbol)).map fixedFlag).toList =
      (m.fixed.filter (·.symbol == symbol)).map fixedFlag := by
    rw [Option.toList_map, Metric.fixed, FixedVariable.toList_find?_infer]
  rw [reportedFlags, hdenominators, hfixed, ← hfound]
  simp only [← Formula.isDenominator_iff_mem]
  rfl

theorem variableLine_eq (symbol : Text) :
    variableLine m.formula m.fixed symbol = reportedLine (m.check s) symbol ++ ['\n'] := by
  rw [variableLine, reportedLine, variableFlags_eq h]
  cases reportedFlags (m.check s) symbol with
  | nil => rfl
  | cons flag flags => simp

theorem newline_notMem_of_mem_reportedFlags {symbol flag : Text}
    (hflag : flag ∈ reportedFlags (m.check s) symbol) : '\n' ∉ flag := by
  intro hmem
  rw [reportedFlags, (Metric.derived_of_accepted h).2.2] at hflag
  rcases List.mem_append.mp hflag with hflag | hflag
  · split at hflag
    · obtain rfl := List.mem_singleton.mp hflag
      exact absurd hmem (by decide)
    · cases hflag
  · obtain ⟨v, hv, rfl⟩ := List.mem_map.mp hflag
    have hfinite := FixedVariable.isFinite_of_mem_infer (List.mem_of_mem_filter hv)
    rcases List.mem_append.mp hmem with hmem | hmem
    · exact absurd hmem (by decide)
    · cases Binary64.isNumeralChar_of_mem_plain hfinite '\n' hmem

/-- A line is one line. -/
theorem newline_notMem_reportedLine {symbol : Text} (hsymbol : symbol ∈ (m.check s).symbols) :
    '\n' ∉ reportedLine (m.check s) symbol := by
  rw [(Metric.derived_of_accepted h).1] at hsymbol
  have hname : '\n' ∉ symbol := fun hmem => by
    cases Formula.isSymbolChar_of_mem (Formula.isSymbol_of_mem_symbols hsymbol) '\n' hmem
  intro hmem
  unfold reportedLine at hmem
  split at hmem
  · exact hname hmem
  · simp only [List.mem_append, or_assoc] at hmem
    rcases hmem with hmem | hmem | hmem | hmem
    · exact hname hmem
    · exact absurd hmem (by decide)
    · rcases Text.mem_join hmem with hmem | ⟨flag, hflag, hmem⟩
      · exact absurd hmem (by decide)
      · exact newline_notMem_of_mem_reportedFlags h hflag hmem
    · exact absurd hmem (by decide)

/-- The output on a formula that is accepted is what the report tells. -/
theorem formula_eq_reported (hformula : (Formula.check true m.formula).valid = true) :
    (formula m.formula m.desired m.worst).status = .success ∧
      (formula m.formula m.desired m.worst).out =
        (m.check s).symbols.flatMap fun x => reportedLine (m.check s) x ++ ['\n'] := by
  have hsymbols := (Metric.derived_of_accepted h).1
  have herror : (Formula.check true m.formula).error = none := Option.isNone_iff_eq_none.mp hformula
  rw [formula, herror, hsymbols]
  exact ⟨rfl, congrArg (List.flatMap · _) (funext fun x => variableLine_eq h x)⟩

end

/-- A formula that is accepted where one is required is accepted anywhere,
and thresholds are under any label. -/
theorem accepted_of_valid {m : Metric} {label label' : Text}
    (hformula : (Formula.check true m.formula).valid = true)
    (hdesired : (Threshold.check label (Text.entered m.desired)).valid = true)
    (hworst : (Threshold.check label' (Text.entered m.worst)).valid = true) (s : Settings) :
    m.Accepted s := by
  refine ⟨?_, ?_, ?_⟩
  · rwa [Metric.formulaVerdict,
      Formula.check_of_strip_ne_nil (Formula.strip_ne_nil_of_valid hformula) _ true]
  · rw [Metric.desiredVerdict, Threshold.valid_check_iff]
    exact (Threshold.valid_check_iff label _).mp hdesired
  · rw [Metric.worstVerdict, Threshold.valid_check_iff]
    exact (Threshold.valid_check_iff label' _).mp hworst

/-- **The command and the report tell the same.** Where the formula and the
thresholds of a metric are accepted, the command that lists its variables
ends well, and makes one line for each variable of the report, in order:
the symbol, marked as a denominator if it is one of the report's and with
each value that the report fixes it to. So does a run with any arguments
that ask for it, and some arguments do. -/
theorem formula_tells_report (s : Settings) (surroundings : Surroundings) (m : Metric)
    (label label' : Text) (hformula : (Formula.check true m.formula).valid = true)
    (hdesired : (Threshold.check label (Text.entered m.desired)).valid = true)
    (hworst : (Threshold.check label' (Text.entered m.worst)).valid = true) :
    let report := m.check s
    ((formula m.formula m.desired m.worst).status.code = 0 ∧
      (formula m.formula m.desired m.worst).out =
        report.symbols.flatMap fun x => reportedLine report x ++ ['\n']) ∧
    (∀ args, Asks args m.formula m.desired m.worst →
      (run surroundings args).status.code = 0 ∧
      (run surroundings args).out =
        report.symbols.flatMap fun x => reportedLine report x ++ ['\n']) ∧
    (∀ x ∈ report.symbols, '\n' ∉ reportedLine report x) ∧
    Asks (commandLine m.formula m.desired m.worst) m.formula m.desired m.worst := by
  have haccepted := accepted_of_valid hformula hdesired hworst s
  obtain ⟨hstatus, hout⟩ := formula_eq_reported haccepted hformula
  have hcode := congrArg ExitStatus.code hstatus
  refine ⟨⟨hcode, hout⟩, ?_, fun x hx => newline_notMem_reportedLine haccepted hx,
    asks_commandLine ..⟩
  rintro args ⟨quiet, verbose, hrequest⟩
  rw [run, hrequest]
  exact ⟨hcode, hout⟩

/-- Ten calls in three minutes: the minutes are a denominator and fixed. -/
theorem formula_tells_report_callRate :
    let surroundings : Surroundings :=
      { tree := {}, directory := "/", limits := .usual, renderer := Rendering.Console.renderer }
    let args : List Text := ["variables", "--desired", ">=10/3min", "A/B"]
    (run surroundings args).status.code = 0 ∧
      (run surroundings args).out = "A\nB (denominator, fixed=3)\n" := by
  intro surroundings args
  let m : Metric := { name := "Call rate", formula := "A/B", desired := some ">=10/3min" }
  have hasks : Asks args m.formula m.desired m.worst := ⟨false, false, rfl⟩
  have htold : ((m.check {}).symbols.flatMap fun x => reportedLine (m.check {}) x ++ ['\n']) =
      "A\nB (denominator, fixed=3)\n" := by decide +kernel
  obtain ⟨-, hrun, -, -⟩ := formula_tells_report {} surroundings m "desired" "worst"
    (by decide +kernel) (by decide +kernel) (by decide +kernel)
  obtain ⟨hcode, hout⟩ := hrun args hasks
  exact ⟨hcode, hout.trans htold⟩

end Command.Inspect
end MetricAudit
