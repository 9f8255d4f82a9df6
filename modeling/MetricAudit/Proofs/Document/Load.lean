/-
MetricAudit.Proofs.Document.Load — how the loading of metrics ends.

A file that exists and gives no metrics is declared malformed: its bytes
are not a document of its format, or the document does not describe
metrics. The exceptions are the limits of readers and messages, which
`Overruns` names: an integer of too many digits, values for whose levels
there is no room, and a misshapen document that can be read but not be
shown. Where that is a JSON document it nests too deep, for its integers
can be shown.

None of these is met in a text whose runs of digits are short and that
takes no more levels than there is always room for
(`not_overruns_of_isModest`).
-/
import MetricAudit.Command.Check
import MetricAudit.Proofs.Json.Reader
import MetricAudit.Proofs.Toml.Reader

namespace MetricAudit.Document

open Text (ShortRuns marks)

/-! ## What is declared -/

/-- The file is reported to be malformed. -/
def LoadFault.IsDeclared : LoadFault → Prop
  | .malformed _ => True
  | .misshapen _ => True
  | _ => False

/-- There are metrics, or the file is reported to be malformed. -/
def Declared (loaded : Except LoadFault (List Metric)) : Prop :=
  ∀ fault, loaded = .error fault → fault.IsDeclared

/-- What is declared of a file ends a check with a status of its own. -/
theorem status_loadOutcome_iff (remarks : List Log.Remark) (p : Path) (fault : LoadFault) :
    (Command.Check.loadOutcome remarks p fault).status = .malformedFile ↔ fault.IsDeclared := by
  cases fault <;>
    simp [Command.Check.loadOutcome, Command.Outcome.refused, Command.Outcome.failed,
      LoadFault.IsDeclared]

/-- A limit is met, rather than the bytes no document. -/
def Unread.IsLimit : Unread → Prop
  | .malformed _ => False
  | .tooManyDigits _ => True
  | .tooDeep _ => True

section
variable {limits : NestingLimits} {tree : FileTree} {p : Path} {bytes : List UInt8}

theorem declared_iff_of_unread (h : tree.find? p = .ok (some (.file bytes))) {u : Unread}
    (hu : ofBytes limits (.ofPath p) bytes = .error u) :
    Declared (loadMetrics limits tree p) ↔ ¬u.IsLimit := by
  unfold loadMetrics
  rw [h]
  dsimp only
  rw [hu]
  cases u <;> simp [Declared, LoadFault.IsDeclared, Unread.IsLimit]

/-- A document of a wrong shape is shown in the message about it. -/
theorem declared_iff_of_document (h : tree.find? p = .ok (some (.file bytes)))
    {document : Data} (hd : ofBytes limits (.ofPath p) bytes = .ok document) :
    Declared (loadMetrics limits tree p) ↔
      ((fault? document).isSome = true →
        limits.shows document = true ∧ document.integerDigits ≤ DigitLimit.most) := by
  unfold loadMetrics
  rw [h]
  dsimp only
  rw [hd]
  dsimp only
  unfold metrics
  cases fault? document with
  | none => simp [Declared]
  | some fault =>
    simp only [Option.isSome_some, true_imp_iff, ← Nat.not_lt]
    split_ifs with hdepth hdigits <;>
      simp_all [Declared, LoadFault.IsDeclared]

end

/-! ## What is read -/

section
variable (limits : NestingLimits)

theorem ofBytes_json {bytes : List UInt8} {s : Text} (hs : Text.Utf8.decode bytes = .ok s) :
    ofBytes limits .json bytes = ofJson limits.json (Text.unifyEnds s) := by
  simp only [ofBytes, hs]

theorem ofBytes_toml {bytes : List UInt8} {s : Text} (hs : Text.Utf8.decode bytes = .ok s) :
    ofBytes limits .toml bytes = (ofToml limits.toml s).map .table := by
  simp only [ofBytes, hs]

theorem ofJson_cases (room : NestingLimit.Room) (s : Text) :
    (∃ d, Json.read room s = .ok d ∧ ofJson room s = .ok d) ∨
      ∃ f u, Json.read room s = .error f ∧ ofJson room s = .error u ∧ (u.IsLimit ↔ f.IsLimit) := by
  unfold ofJson
  cases Json.read room s with
  | ok d => exact Or.inl ⟨d, rfl, rfl⟩
  | error f => cases f <;> exact Or.inr ⟨_, _, rfl, rfl, Iff.rfl⟩

theorem ofToml_cases (room : NestingLimit.Room) (s : Text) :
    (∃ t, Toml.read room s = .ok t ∧ ofToml room s = .ok t) ∨
      ∃ f u, Toml.read room s = .error f ∧ ofToml room s = .error u ∧ (u.IsLimit ↔ f.IsLimit) := by
  unfold ofToml
  cases Toml.read room s with
  | ok t => exact Or.inl ⟨t, rfl, rfl⟩
  | error f => cases f <;> exact Or.inr ⟨_, _, rfl, rfl, Iff.rfl⟩

/-- A limit is met between a text and its metrics. -/
def Overruns : Format → Text → Prop
  | .json, s =>
    (∃ f, Json.read limits.json (Text.unifyEnds s) = .error f ∧ f.IsLimit) ∨
      ∃ d, Json.read limits.json (Text.unifyEnds s) = .ok d ∧ (fault? d).isSome = true ∧
        limits.shows d = false
  | .toml, s =>
    (∃ f, Toml.read limits.toml s = .error f ∧ f.IsLimit) ∨
      ∃ t, Toml.read limits.toml s = .ok t ∧ (fault? (.table t)).isSome = true ∧
        (limits.shows (.table t) = false ∨ DigitLimit.most < (Data.table t).integerDigits)

end

/-! ## Modest texts -/

/-- A text as the reader of a format takes it. -/
def taken : Format → Text → Text
  | .json => Text.unifyEnds
  | .toml => Toml.lines

/-- The levels that so many marks take: of JSON every one takes a level,
of TOML up to four, in a table that is a level itself. -/
def levelsOf : Format → Nat → Nat
  | .json, n => n
  | .toml, n => 4 * n + 1

/-- Short runs of digits, and no more marks than the levels are enough
for. -/
def IsModest (levels : Nat) (format : Format) (s : Text) : Prop :=
  ShortRuns (taken format s) ∧ levelsOf format (marks (taken format s)) ≤ levels

theorem not_overruns_of_isModest {limits : NestingLimits} {levels : Nat}
    (hlimits : limits.Allow levels) {format : Format} {s : Text} (h : IsModest levels format s) :
    ¬Overruns limits format s := by
  obtain ⟨hruns, hmarks⟩ := h
  cases format with
  | json =>
    rintro (⟨f, hf, hlimit⟩ | ⟨d, hd, -, hshows⟩)
    · exact Json.not_isLimit_of_read hlimits.json hruns hmarks hf hlimit
    · have hdepth : d.depth ≤ levels := (Json.within_of_read hd).1.trans hmarks
      exact Bool.false_ne_true (hshows.symm.trans (hlimits.shows d hdepth))
  | toml =>
    have hread := Toml.read_ensures hlimits.toml hruns
    have hmost : 4 * marks (Toml.lines s) + 1 ≤ levels := hmarks
    rintro (⟨f, hf, hlimit⟩ | ⟨t, ht, -, hshown⟩)
    · rw [hf] at hread
      have hlt := hread hlimit
      omega
    · rw [ht] at hread
      have hwithin : (Data.table t).Within levels := (Data.within_table_iff.mpr hread).mono hmost
      rcases hshown with hshows | hdigits
      · exact Bool.false_ne_true (hshows.symm.trans (hlimits.shows _ hwithin.1))
      · exact hwithin.2.not_gt hdigits

/-! ## Loading -/

section
variable {limits : NestingLimits} {tree : FileTree} {p : Path} {bytes : List UInt8}

theorem declared_of_undecoded (h : tree.find? p = .ok (some (.file bytes)))
    {fault : Text.Utf8.Fault} (hs : Text.Utf8.decode bytes = .error fault) :
    Declared (loadMetrics limits tree p) := by
  have hu : ofBytes limits (.ofPath p) bytes = .error (.malformed fault.message) := by
    unfold ofBytes
    rw [hs]
  exact (declared_iff_of_unread h hu).mpr id

theorem declared_iff_not_overruns (h : tree.find? p = .ok (some (.file bytes))) {s : Text}
    (hs : Text.Utf8.decode bytes = .ok s) :
    Declared (loadMetrics limits tree p) ↔ ¬Overruns limits (.ofPath p) s := by
  cases hformat : Format.ofPath p with
  | json =>
    have hbytes : ofBytes limits (.ofPath p) bytes = ofJson limits.json (Text.unifyEnds s) :=
      hformat ▸ ofBytes_json limits hs
    rcases ofJson_cases limits.json (Text.unifyEnds s) with
      ⟨d, hread, hd⟩ | ⟨f, u, hread, hu, hlimit⟩
    · have hdigits : d.integerDigits ≤ DigitLimit.most := (Json.within_of_read hread).2
      rw [declared_iff_of_document h (hbytes.trans hd)]
      simp [Overruns, hread, hdigits]
    · rw [declared_iff_of_unread h (hbytes.trans hu), hlimit]
      simp [Overruns, hread]
  | toml =>
    have hbytes : ofBytes limits (.ofPath p) bytes = (ofToml limits.toml s).map .table :=
      hformat ▸ ofBytes_toml limits hs
    rcases ofToml_cases limits.toml s with ⟨t, hread, ht⟩ | ⟨f, u, hread, hu, hlimit⟩
    · rw [ht] at hbytes
      rw [declared_iff_of_document h hbytes]
      simp [Overruns, hread]
    · rw [hu] at hbytes
      rw [declared_iff_of_unread h hbytes, hlimit]
      simp [Overruns, hread]

end

/-- **How loading ends.** Whatever the limits are, a file gives metrics or
is declared malformed exactly if its text meets none of them, and then a
check that it stops has the status of malformed files. No limit is met in
bytes that are not UTF-8, and none in a modest text, where there is room
for the levels that it takes. -/
theorem declared_loadMetrics_iff (limits : NestingLimits) {tree : FileTree} {p : Path}
    {bytes : List UInt8} (h : tree.find? p = .ok (some (.file bytes))) :
    (Declared (loadMetrics limits tree p) ↔
      ∀ s, Text.Utf8.decode bytes = .ok s → ¬Overruns limits (.ofPath p) s) ∧
    (∀ levels, limits.Allow levels →
      (∀ s, Text.Utf8.decode bytes = .ok s → IsModest levels (.ofPath p) s) →
        Declared (loadMetrics limits tree p)) ∧
    ∀ remarks fault, loadMetrics limits tree p = .error fault →
      ((Command.Check.loadOutcome remarks p fault).status = .malformedFile ↔
        Declared (loadMetrics limits tree p)) := by
  have hiff : Declared (loadMetrics limits tree p) ↔
      ∀ s, Text.Utf8.decode bytes = .ok s → ¬Overruns limits (.ofPath p) s := by
    cases hs : Text.Utf8.decode bytes with
    | error fault => exact iff_of_true (declared_of_undecoded h hs) fun _ hs' => nomatch hs'
    | ok s =>
      rw [declared_iff_not_overruns h hs]
      exact ⟨fun hnot s' hs' => Except.ok.inj hs' ▸ hnot, fun hall => hall s rfl⟩
  refine ⟨hiff, fun levels hlimits hmodest => hiff.mpr fun s hs =>
    not_overruns_of_isModest hlimits (hmodest s hs), ?_⟩
  intro remarks fault hfault
  rw [status_loadOutcome_iff, hfault]
  exact ⟨fun hfault' _ heq => Except.error.inj heq ▸ hfault', fun h => h fault rfl⟩

/-- A list of lists of integers where a name should stand is declared
malformed, where there is room for many levels. -/
theorem declared_loadMetrics_nested :
    let text : Text := "name = [[0x1f], [-7]]"
    let bytes := text.map fun c => UInt8.ofNat c.toNat
    let tree : FileTree := { nodes := [(.parse "m.toml", .file bytes)] }
    tree.find? (.parse "m.toml") = .ok (some (.file bytes)) ∧
      Declared (loadMetrics .usual tree (.parse "m.toml")) := by
  intro text bytes tree
  have hfind : tree.find? (.parse "m.toml") = .ok (some (.file bytes)) := by decide +kernel
  have hdecode : Text.Utf8.decode bytes = .ok text := by decide +kernel
  obtain ⟨-, hmodest, -⟩ := declared_loadMetrics_iff .usual hfind
  refine ⟨hfind, hmodest 983 NestingLimits.allow_usual fun s hs => ?_⟩
  obtain rfl := Except.ok.inj (hdecode.symm.trans hs)
  exact ⟨Text.shortRuns_of_length_le (by decide +kernel), by decide +kernel⟩

/-! ## A limit that is met -/

theorem decode_ascii {s : Text} (hs : ∀ c ∈ s, c.toNat < 0x80) :
    Text.Utf8.decode (s.map fun c => UInt8.ofNat c.toNat) = .ok s := by
  have hfrom : ∀ at_, Text.Utf8.decodeFrom at_ 0 (s.map fun c => UInt8.ofNat c.toNat) = .ok s := by
    induction s with
    | nil => exact fun _ => rfl
    | cons c s ih =>
      intro at_
      obtain ⟨hc, hs⟩ := List.forall_mem_cons.mp hs
      have hbyte : (UInt8.ofNat c.toNat).toNat = c.toNat :=
        UInt8.toNat_ofNat_of_lt (Nat.lt_trans hc (by decide))
      rw [List.map_cons, Text.Utf8.decodeFrom, hbyte, if_pos hc, ih hs, Char.ofNat_toNat]
      rfl
  exact hfrom 0

theorem unifyEnds_of_not_mem {s : Text} (hs : '\r' ∉ s) : Text.unifyEnds s = s := by
  have hjoin : Text.joinDoubleEnds s = s := by
    induction s with
    | nil => rfl
    | cons c s ih =>
      rw [List.mem_cons, not_or] at hs
      rw [Text.joinDoubleEnds, ih hs.2]
      exact fun _ hc => (hs.1 hc.symm).elim
  have hkeep : ∀ c ∈ s, (if c = '\r' then '\n' else c) = id c :=
    fun c hc => if_neg fun (heq : c = '\r') => hs (heq ▸ hc)
  rw [Text.unifyEnds, hjoin, List.map_congr_left hkeep, List.map_id]

/-- An integer of more digits than can be converted, in a file of its own.
There has to be room for a value that is not nested. -/
theorem overruns_of_digits {limits : NestingLimits} (hroom : limits.json.Allows 0) {n : Nat}
    (hn : DigitLimit.most ≤ n) :
    Text.Utf8.decode (List.replicate (n + 1) 0x31) = .ok (List.replicate (n + 1) '1') ∧
      Overruns limits .json (List.replicate (n + 1) '1') := by
  have hones : ∀ n, ∀ c ∈ List.replicate n '1', c = '1' := fun n c => List.eq_of_mem_replicate
  constructor
  · have hbytes : List.replicate (n + 1) 0x31 =
        (List.replicate (n + 1) '1').map fun c => UInt8.ofNat c.toNat := by
      rw [List.map_replicate]
      rfl
    rw [hbytes]
    exact decode_ascii fun c hc => hones _ c hc ▸ by decide
  · refine Or.inl ⟨.tooManyDigits (n + 1), ?_, trivial⟩
    rw [unifyEnds_of_not_mem fun hmem => absurd (hones _ _ hmem) (by decide),
      List.replicate_succ, Json.read_digits (hroom 0 _ (Nat.le_refl _))
        (fun c hc => hones _ c hc ▸ rfl) (by simpa using hn),
      List.length_replicate]

/-- A file that holds an integer of 4301 digits is neither read nor
declared malformed, however deep data may nest. -/
theorem not_declared_longInteger :
    let bytes : List UInt8 := List.replicate 4301 0x31
    let tree : FileTree := { nodes := [(.parse "m.json", .file bytes)] }
    tree.find? (.parse "m.json") = .ok (some (.file bytes)) ∧
      ∀ limits : NestingLimits, limits.json.Allows 0 →
        ¬Declared (loadMetrics limits tree (.parse "m.json")) := by
  intro bytes tree
  have hfind : tree.find? (.parse "m.json") = .ok (some (.file bytes)) := rfl
  have hformat : Format.ofPath (.parse "m.json") = .json := by decide +kernel
  refine ⟨hfind, fun limits hroom hdeclared => ?_⟩
  obtain ⟨hdecode, hover⟩ := overruns_of_digits (n := 4300) hroom (Nat.le_refl _)
  have hnot := (declared_iff_not_overruns hfind hdecode).mp hdeclared
  rw [hformat] at hnot
  exact hnot hover

end MetricAudit.Document
