/-
MetricAudit.Proofs.Project — how the loading of settings ends.

A project file gives settings, or its configuration is declared wrong: an
entry of its section is refused, or the section is no table. A text that
is no TOML document counts as no configuration, which a warning says
(`exists_unreadable_iff`), and so does what cannot be opened.

Three files do neither and stop the program: bytes that are not UTF-8, a
text in which the reader meets a limit, and a document in which `tool` is
no table (`declared_load_iff`). A path that the system does not look up
does so too. A check ends with the status of configuration errors exactly
where one is declared (`code_settingsOutcome`).
-/
import MetricAudit.Command.Check
import MetricAudit.Proofs.Toml.Reader
import MetricAudit.Rendering.Console

namespace MetricAudit.Project

open Text (ShortRuns marks)

/-! ## What is declared -/

/-- The configuration is reported to be wrong. -/
def Fault.IsDeclared : Fault → Prop
  | .notATable => True
  | .refused _ => True
  | _ => False

/-- There are settings, or the configuration is reported to be wrong. -/
def Declared (loaded : Except (Fault × List Log.Remark) Found) : Prop :=
  ∀ fault remarks, loaded = .error (fault, remarks) → fault.IsDeclared

theorem declared_ok (found : Found) : Declared (.ok found) := fun _ _ h => nomatch h

theorem declared_error_iff {fault : Fault} {remarks : List Log.Remark} :
    Declared (.error (fault, remarks)) ↔ fault.IsDeclared := by
  simp [Declared]

/-! ## Documents -/

/-- What stands under `tool`, if anything does, is a table. -/
def ToolIsTable (document : Table) : Prop :=
  ∀ value, document.get? "tool" = some value → ∃ tool, value = .table tool

/-- The section is found, or it is no table, where `tool` is a table. -/
theorem settingsTable_cases (document : Table) :
    (∃ entries, settingsTable document = .ok entries ∧ ToolIsTable document) ∨
      ∃ fault, settingsTable document = .error fault ∧
        (fault.IsDeclared ↔ ToolIsTable document) := by
  unfold settingsTable ToolIsTable
  cases document.get? "tool" with
  | none => exact .inl ⟨[], rfl, by simp⟩
  | some value =>
    cases value with
    | table tool =>
      have htable : ∀ value, some (Data.table tool) = some value → ∃ tool, value = .table tool :=
        fun value hvalue => ⟨tool, (Option.some.inj hvalue).symm⟩
      dsimp only
      cases Table.get? tool Program.name with
      | none => exact .inl ⟨[], rfl, htable⟩
      | some section_ =>
        cases section_ with
        | table entries => exact .inl ⟨entries, rfl, htable⟩
        | _ => exact .inr ⟨.notATable, rfl, iff_of_true trivial htable⟩
    | _ => exact .inr ⟨.toolNotATable _, rfl, by simp [Fault.IsDeclared]⟩

theorem declared_ofDocument_iff (path : Text) (document : Table) :
    Declared (ofDocument path document) ↔ ToolIsTable document := by
  unfold ofDocument
  obtain ⟨entries, hentries, htool⟩ | ⟨fault, hfault, hiff⟩ := settingsTable_cases document
  · rw [hentries]
    dsimp only
    cases Settings.ofTable entries with
    | ok settings => exact iff_of_true (declared_ok _) htool
    | error fault => exact iff_of_true (declared_error_iff.mpr trivial) htool
  · rw [hfault, ← hiff]
    exact declared_error_iff

/-- A document that is read is not passed over. -/
theorem ofDocument_ne_unreadable (path reason : Text) (document : Table) :
    ofDocument path document ≠ .ok (.unreadable path reason) := by
  unfold ofDocument
  cases settingsTable document with
  | error fault => simp
  | ok entries =>
    dsimp only
    cases Settings.ofTable entries with
    | error fault => simp
    | ok settings => cases entries <;> simp [Found.unreadable]

/-! ## Files -/

section
variable (room : NestingLimit.Room)

/-- The text is no TOML document. -/
def Malformed (s : Text) : Prop :=
  ∃ complaint rest, Toml.read room s = .error (.misplaced complaint rest)

/-- The reader of TOML meets a limit in the text. -/
def Overruns (s : Text) : Prop := ∃ f, Toml.read room s = .error f ∧ f.IsLimit

end

section
variable {room : NestingLimit.Room} {tree : FileTree} {p : Path} {bytes : List UInt8} (path : Text)

variable (room) in
/-- The ways of a text: it is read, it is no document, or it meets a
limit. -/
theorem load_cases (h : tree.find? p = .ok (some (.file bytes))) {s : Text}
    (hs : Text.Utf8.decode bytes = .ok s) :
    (∃ document, Toml.read room s = .ok document ∧
      load room tree p path = ofDocument path document) ∨
    (Malformed room s ∧ ∃ reason, load room tree p path = .ok (.unreadable path reason)) ∨
    (Overruns room s ∧ ∃ fault, load room tree p path = .error (fault, []) ∧
      ¬fault.IsDeclared) := by
  unfold load Malformed Overruns
  simp only [h, hs, Document.ofToml]
  cases Toml.read room s with
  | ok document => exact .inl ⟨document, rfl, rfl⟩
  | error f =>
    cases f with
    | misplaced complaint rest => exact .inr (.inl ⟨⟨_, _, rfl⟩, _, rfl⟩)
    | tooManyDigits n => exact .inr (.inr ⟨⟨_, rfl, trivial⟩, _, rfl, id⟩)
    | tooDeep task => exact .inr (.inr ⟨⟨_, rfl, trivial⟩, _, rfl, id⟩)

theorem load_of_undecoded (h : tree.find? p = .ok (some (.file bytes))) {fault : Text.Utf8.Fault}
    (hs : Text.Utf8.decode bytes = .error fault) :
    load room tree p path = .error (.undecodable fault, []) := by
  simp only [load, h, hs]

theorem not_overruns_of_malformed {s : Text} (h : Malformed room s) : ¬Overruns room s := by
  obtain ⟨complaint, rest, h⟩ := h
  rintro ⟨f, hf, hlimit⟩
  obtain rfl := Except.error.inj (h.symm.trans hf)
  exact hlimit

theorem declared_load_iff (h : tree.find? p = .ok (some (.file bytes))) :
    Declared (load room tree p path) ↔
      ∃ s, Text.Utf8.decode bytes = .ok s ∧ ¬Overruns room s ∧
        ∀ document, Toml.read room s = .ok document → ToolIsTable document := by
  cases hs : Text.Utf8.decode bytes with
  | error fault =>
    rw [load_of_undecoded path h hs, declared_error_iff]
    simp [Fault.IsDeclared]
  | ok s =>
    simp only [Except.ok.injEq, exists_eq_left']
    obtain ⟨document, hread, hload⟩ | ⟨hmalformed, reason, hload⟩ | ⟨hover, fault, hload, hfault⟩ :=
      load_cases room path h hs
    · rw [hload, declared_ofDocument_iff]
      simp [Overruns, hread]
    · have hmal := hmalformed
      obtain ⟨complaint, rest, hread⟩ := hmal
      rw [hload]
      refine iff_of_true (declared_ok _) ⟨not_overruns_of_malformed hmalformed, fun d hd => ?_⟩
      exact nomatch hread.symm.trans hd
    · rw [hload, declared_error_iff]
      exact iff_of_false hfault fun hnot => hnot.1 hover

/-- The default settings stand in, with a warning, for a text that is no
document. -/
theorem exists_unreadable_iff (h : tree.find? p = .ok (some (.file bytes))) :
    (∃ reason, load room tree p path = .ok (.unreadable path reason)) ↔
      ∃ s, Text.Utf8.decode bytes = .ok s ∧ Malformed room s := by
  cases hs : Text.Utf8.decode bytes with
  | error fault => simp [load_of_undecoded path h hs]
  | ok s =>
    simp only [Except.ok.injEq, exists_eq_left']
    obtain ⟨document, hread, hload⟩ | ⟨hmalformed, hload⟩ | ⟨hover, fault, hload, -⟩ :=
      load_cases room path h hs
    · simp [hload, ofDocument_ne_unreadable, Malformed, hread]
    · exact iff_of_true hload hmalformed
    · rw [hload]
      exact iff_of_false (by simp) fun hmal => not_overruns_of_malformed hmal hover

end

/-- The default settings stand in, with a warning, for what is there but
cannot be opened. -/
theorem exists_unreadable_of_not_file {room : NestingLimit.Room} {tree : FileTree} {p : Path}
    (path : Text) {node : FileNode} (h : tree.find? p = .ok (some node))
    (hnode : ∀ bytes, node ≠ .file bytes) :
    ∃ reason, load room tree p path = .ok (.unreadable path reason) := by
  unfold load
  rw [h]
  cases node with
  | file bytes => exact absurd rfl (hnode bytes)
  | directory => exact ⟨_, rfl⟩
  | locked fault => exact ⟨_, rfl⟩

/-- No limit is met where the runs of digits are short and there is room
for three levels of each mark. -/
theorem not_overruns_of_few_marks {room : NestingLimit.Room} {levels : Nat}
    (hroom : room.Allows levels) {s : Text} (hruns : ShortRuns (Toml.lines s))
    (hmarks : 3 * marks (Toml.lines s) ≤ levels) : ¬Overruns room s := by
  rintro ⟨f, hf, hlimit⟩
  have hread := Toml.read_ensures hroom hruns
  rw [hf] at hread
  exact (hread hlimit).not_ge hmarks

/-! ## Checks -/

/-- A check ends with the status of configuration errors where one is
declared, and with the generic one where the settings stop it otherwise. -/
theorem code_settingsOutcome (path : Text) (remarks : List Log.Remark) (fault : Fault) :
    (fault.IsDeclared → (Command.Check.settingsOutcome path remarks fault).status.code = 78) ∧
      (¬fault.IsDeclared → (Command.Check.settingsOutcome path remarks fault).status.code = 1) := by
  cases fault <;> simp [Command.Check.settingsOutcome, Command.Outcome.refused,
    Command.Outcome.failed, Command.ExitStatus.code, Fault.IsDeclared]

theorem settings_of_error {s : Command.Surroundings} {r : Command.CheckRequest}
    {fault : Fault} {remarks : List Log.Remark}
    (h : load s.limits.toml s.tree (Command.Check.configuration s r).1
      (Command.Check.configuration s r).2 = .error (fault, remarks)) :
    Command.Check.settings s r = .error (fault, remarks) := by
  unfold Command.Check.settings
  dsimp only
  rw [h]
  rfl

/-- A check is stopped by its settings before it looks at any file. -/
theorem run_of_settings {s : Command.Surroundings} {r : Command.CheckRequest} {fault : Fault}
    {remarks : List Log.Remark} (h : Command.Check.settings s r = .error (fault, remarks)) :
    Command.Check.run s r =
      Command.Check.settingsOutcome (Command.Check.configuration s r).2 remarks fault := by
  rw [Command.Check.run, h]

/-- **How the loading of settings ends.** A missing file gives the default
settings; what is there but cannot be opened gives them with a warning. A
file gives settings or is declared wrong exactly if its bytes are a text
that meets no limit and, if that is a document, `tool` is a table in it;
the default settings stand in with a warning exactly for a text that is no
document. A limit takes long runs of digits or many marks. A path that is
not looked up is not declared wrong. A check that the settings stop has
the status 78 if a fault of them is declared, and 1 otherwise. -/
theorem load_characterized (room : NestingLimit.Room) (tree : FileTree) (p : Path) (path : Text) :
    (tree.find? p = .ok none → load room tree p path = .ok ⟨{}, []⟩) ∧
    (∀ node, tree.find? p = .ok (some node) → (∀ bytes, node ≠ .file bytes) →
      ∃ reason, load room tree p path = .ok (.unreadable path reason)) ∧
    (∀ bytes, tree.find? p = .ok (some (.file bytes)) →
      (Declared (load room tree p path) ↔
        ∃ s, Text.Utf8.decode bytes = .ok s ∧ ¬Overruns room s ∧
          ∀ document, Toml.read room s = .ok document → ToolIsTable document) ∧
      ((∃ reason, load room tree p path = .ok (.unreadable path reason)) ↔
        ∃ s, Text.Utf8.decode bytes = .ok s ∧ Malformed room s)) ∧
    (∀ levels s, room.Allows levels → ShortRuns (Toml.lines s) →
      3 * marks (Toml.lines s) ≤ levels → ¬Overruns room s) ∧
    (∀ fault, tree.find? p = .error fault → ¬Declared (load room tree p path)) ∧
    ∀ s r fault remarks, s.tree = tree → s.limits.toml = room →
      Command.Check.configuration s r = (p, path) →
      load room tree p path = .error (fault, remarks) →
        (fault.IsDeclared → (Command.Check.run s r).status.code = 78) ∧
        (¬fault.IsDeclared → (Command.Check.run s r).status.code = 1) := by
  refine ⟨fun h => ?_, fun node => exists_unreadable_of_not_file path,
    fun bytes h => ⟨declared_load_iff path h, exists_unreadable_iff path h⟩,
    fun levels s hroom => not_overruns_of_few_marks hroom, fun fault h => ?_, ?_⟩
  · simp only [load, h]
  · simp [load, h, Declared, Fault.IsDeclared]
  · rintro s r fault remarks rfl rfl hconfiguration h
    have hsettings : Command.Check.settings s r = .error (fault, remarks) :=
      settings_of_error (by rw [hconfiguration]; exact h)
    rw [run_of_settings hsettings]
    exact code_settingsOutcome _ remarks fault

/-- The unknown setting that the loading is refused for. -/
def unknown? : Except (Fault × List Log.Remark) Found → Option Text
  | .error (.refused (.unknown name), _) => some name
  | _ => none

theorem eq_error_of_unknown? {result : Except (Fault × List Log.Remark) Found} {name : Text}
    (h : unknown? result = some name) :
    ∃ remarks, result = .error (.refused (.unknown name), remarks) := by
  unfold unknown? at h
  split at h
  · obtain rfl := Option.some.inj h
    exact ⟨_, rfl⟩
  · cases h

/-- An unknown setting meets no limit where there is room for many levels;
it is declared, and a check ends with the status of configuration
errors. -/
theorem load_characterized_unknown :
    let text : Text := "[tool.metricgate]\nmode = 1"
    let bytes := text.map fun c => UInt8.ofNat c.toNat
    let p : Path := .parse "pyproject.toml"
    let s : Command.Surroundings :=
      { tree := { nodes := [(p, .file bytes)] }, directory := "/", limits := .usual
        renderer := Rendering.Console.renderer }
    s.tree.find? p = .ok (some (.file bytes)) ∧ ¬Overruns s.limits.toml text ∧
      Declared (load s.limits.toml s.tree p p.text) ∧
      (Command.Check.run s { paths := [], config := some p }).status.code = 78 := by
  intro text bytes p s
  have hfind : s.tree.find? p = .ok (some (.file bytes)) := by decide +kernel
  have hunknown : unknown? (load s.limits.toml s.tree p p.text) = some "mode" := by decide +kernel
  obtain ⟨remarks, hload⟩ := eq_error_of_unknown? hunknown
  obtain ⟨-, -, -, hlimits, -, hcheck⟩ := load_characterized s.limits.toml s.tree p p.text
  have hfew : ¬Overruns s.limits.toml text :=
    hlimits 983 text NestingLimits.allow_usual.toml
      (Text.shortRuns_of_length_le (by decide +kernel)) (by decide +kernel)
  have hdeclared : Declared (load s.limits.toml s.tree p p.text) := by
    rw [hload, declared_error_iff]
    trivial
  exact ⟨hfind, hfew, hdeclared, (hcheck s _ _ _ rfl rfl rfl hload).1 trivial⟩

/-- A file of one byte that no UTF-8 text has neither gives settings nor
is declared wrong, whatever there is room for. -/
theorem not_declared_undecodable :
    let p : Path := .parse "pyproject.toml"
    let tree : FileTree := { nodes := [(p, .file [0xff])] }
    tree.find? p = .ok (some (.file [0xff])) ∧ ∀ room, ¬Declared (load room tree p p.text) := by
  intro p tree
  have hfind : tree.find? p = .ok (some (.file [0xff])) := by decide +kernel
  refine ⟨hfind, fun room hdeclared => ?_⟩
  obtain ⟨s, hs, -⟩ := (declared_load_iff p.text hfind).mp hdeclared
  exact nomatch hs

end MetricAudit.Project
