/-
MetricAudit.Proofs.Settings — the order of the entries of a table.

A table of settings is read entry by entry. Whether it is refused does
not depend on the order: one entry that names no setting, or has a value
of another type than the setting, is enough (`exists_fault_iff`).

What an accepted table comes to may depend on it, for a name may be spelt
with hyphens and with underscores, and then one setting has two entries.
`ofTable_perm_iff` is the main theorem: the order makes no difference
exactly if no setting is given two values. Entries of different settings
are taken over in any order (`put_comm`), and of two entries of one
setting the last one counts (`value_put`).
-/
import Mathlib.Data.List.Perm.Basic
import MetricAudit.Settings

namespace MetricAudit.Settings

/-! ## Entries -/

/-- The value has the type of the setting. -/
inductive Takes : Setting → Data → Prop
  | formulaRequired (b : Bool) : Takes .formulaRequired (.bool b)
  | desiredLabel (s : Text) : Takes .desiredLabel (.text s)
  | worstLabel (s : Text) : Takes .worstLabel (.text s)

/-- The entry names a setting, and has a value of its type. -/
def Fits (entry : Text × Data) : Prop :=
  ∃ setting, Setting.ofKey? entry.1 = some setting ∧ Takes setting entry.2

/-- The entries give one setting two values. -/
def Clash (entry entry' : Text × Data) : Prop :=
  ∃ setting, Setting.ofKey? entry.1 = some setting ∧ Setting.ofKey? entry'.1 = some setting ∧
    entry.2 ≠ entry'.2

/-- The value of a setting. -/
def value (s : Settings) : Setting → Data
  | .formulaRequired => .bool s.formulaRequired
  | .desiredLabel => .text s.desiredLabel
  | .worstLabel => .text s.worstLabel

/-- Settings after an entry, unchanged by one that does not fit. -/
def put (s : Settings) (entry : Text × Data) : Settings :=
  ((Setting.ofKey? entry.1).bind fun setting => assign? s setting entry.2).getD s

theorem assign?_eq_none_iff {s : Settings} {setting : Setting} {v : Data} :
    assign? s setting v = none ↔ ¬Takes setting v := by
  constructor
  · rintro h (_ | _ | _) <;> cases h
  · intro h
    cases setting <;> cases v <;> first | rfl | exact absurd (by constructor) h

theorem read_of_fits {entry : Text × Data} (h : Fits entry) (s : Settings) :
    read s entry = .ok (s.put entry) := by
  obtain ⟨setting, hkey, htakes⟩ := h
  have hsome : assign? s setting entry.2 ≠ none := mt assign?_eq_none_iff.mp (not_not.mpr htakes)
  obtain ⟨s', hs'⟩ := Option.ne_none_iff_exists'.mp hsome
  simp [read, put, hkey, hs']

theorem read_of_not_fits {entry : Text × Data} (h : ¬Fits entry) (s : Settings) :
    ∃ fault, read s entry = .error fault := by
  unfold read
  cases hkey : Setting.ofKey? entry.1 with
  | none => exact ⟨_, rfl⟩
  | some setting =>
    have hnone : assign? s setting entry.2 = none :=
      assign?_eq_none_iff.mpr fun htakes => h ⟨setting, hkey, htakes⟩
    dsimp only
    rw [hnone]
    exact ⟨_, rfl⟩

/-- The last entry of a setting counts. -/
theorem value_put {entry : Text × Data} {setting : Setting}
    (hkey : Setting.ofKey? entry.1 = some setting) (h : Fits entry) (s : Settings) :
    (s.put entry).value setting = entry.2 := by
  obtain ⟨setting', hkey', htakes⟩ := h
  obtain rfl := Option.some.inj (hkey.symm.trans hkey')
  obtain ⟨key, v⟩ := entry
  rw [put, hkey, Option.bind_some]
  cases htakes <;> rfl

/-- Entries that do not clash are taken over in any order. -/
theorem put_comm {entry entry' : Text × Data} (h : Fits entry) (h' : Fits entry')
    (hclash : ¬Clash entry entry') (s : Settings) :
    (s.put entry).put entry' = (s.put entry').put entry := by
  obtain ⟨setting, hkey, htakes⟩ := h
  obtain ⟨setting', hkey', htakes'⟩ := h'
  by_cases hsame : setting = setting'
  · obtain rfl := hsame
    have hvalue : entry.2 = entry'.2 := by
      by_contra hne
      exact hclash ⟨setting, hkey, hkey', hne⟩
    simp only [put, hkey, hkey', hvalue]
  · obtain ⟨key, v⟩ := entry
    obtain ⟨key', v'⟩ := entry'
    simp only [put, hkey, hkey', Option.bind_some]
    cases htakes <;> cases htakes' <;> first | rfl | exact absurd rfl hsame

/-! ## Tables -/

theorem foldlM_read_of_fits {table : Table} (h : ∀ entry ∈ table, Fits entry) (s : Settings) :
    table.foldlM read s = .ok (table.foldl put s) := by
  induction table generalizing s with
  | nil => rfl
  | cons entry rest ih =>
    obtain ⟨hfits, hrest⟩ := List.forall_mem_cons.mp h
    rw [List.foldlM_cons, read_of_fits hfits]
    exact ih hrest (s.put entry)

theorem foldlM_read_of_not_fits {table : Table} (h : ∃ entry ∈ table, ¬Fits entry)
    (s : Settings) : ∃ fault, table.foldlM read s = .error fault := by
  induction table generalizing s with
  | nil =>
    obtain ⟨entry, hmem, -⟩ := h
    cases hmem
  | cons entry rest ih =>
    rw [List.foldlM_cons]
    by_cases hfits : Fits entry
    · have hrest : ∃ entry ∈ rest, ¬Fits entry :=
        ((List.exists_mem_cons_iff ..).mp h).resolve_left (not_not.mpr hfits)
      rw [read_of_fits hfits]
      exact ih hrest (s.put entry)
    · obtain ⟨fault, hfault⟩ := read_of_not_fits hfits s
      rw [hfault]
      exact ⟨fault, rfl⟩

/-- A table of fitting entries is taken over from the first to the last. -/
theorem ofTable_of_fits {table : Table} (h : ∀ entry ∈ table, Fits entry) :
    ofTable table = .ok (table.foldl put {}) :=
  foldlM_read_of_fits h {}

/-- A table is refused for any entry that does not fit. -/
theorem exists_fault_iff {table : Table} :
    (∃ fault, ofTable table = .error fault) ↔ ∃ entry ∈ table, ¬Fits entry := by
  constructor
  · rintro ⟨fault, hfault⟩
    by_contra hnone
    have hfits : ∀ entry ∈ table, Fits entry := fun entry hmem =>
      not_not.mp fun hnot => hnone ⟨entry, hmem, hnot⟩
    rw [ofTable_of_fits hfits] at hfault
    cases hfault
  · exact fun h => foldlM_read_of_not_fits h {}

/-- The value that the last entry gives its setting. -/
theorem value_foldl_concat (before : Table) {entry : Text × Data} {setting : Setting}
    (hkey : Setting.ofKey? entry.1 = some setting) (h : Fits entry) :
    ((before ++ [entry]).foldl put {}).value setting = entry.2 := by
  rw [List.foldl_append]
  exact value_put hkey h _

/-- Any entry of a table may stand last. -/
theorem exists_perm_concat {table : Table} {entry : Text × Data} (hmem : entry ∈ table) :
    ∃ before, table.Perm (before ++ [entry]) := by
  obtain ⟨before, after, rfl⟩ := List.append_of_mem hmem
  refine ⟨before ++ after, ?_⟩
  rw [List.append_assoc]
  exact List.Perm.append_left before (List.perm_append_singleton entry after).symm

/-- **When the order of the entries makes no difference.** In any order a
table is refused exactly if some entry does not fit. If all do, every
order gives the same settings exactly if no setting is given two
values. -/
theorem ofTable_perm_iff (table : Table) :
    (∀ table', table.Perm table' →
      ((∃ fault, ofTable table' = .error fault) ↔ ∃ entry ∈ table, ¬Fits entry)) ∧
    ((∀ entry ∈ table, Fits entry) →
      ((∀ table', table.Perm table' → ofTable table' = ofTable table) ↔
        ∀ entry ∈ table, ∀ entry' ∈ table, ¬Clash entry entry')) := by
  constructor
  · intro table' hperm
    rw [exists_fault_iff]
    simp only [hperm.mem_iff]
  · intro hfits
    have hfits' : ∀ table', table.Perm table' → ∀ entry ∈ table', Fits entry :=
      fun table' hperm entry hmem => hfits entry (hperm.mem_iff.mpr hmem)
    constructor
    · -- two orders, with either entry last, give the setting the values of both
      rintro hsame entry hmem entry' hmem' ⟨setting, hkey, hkey', hne⟩
      obtain ⟨before, hlast⟩ := exists_perm_concat hmem
      obtain ⟨before', hlast'⟩ := exists_perm_concat hmem'
      have horders : ofTable (before ++ [entry]) = ofTable (before' ++ [entry']) :=
        (hsame _ hlast).trans (hsame _ hlast').symm
      rw [ofTable_of_fits (hfits' _ hlast), ofTable_of_fits (hfits' _ hlast')] at horders
      have hvalue := value_foldl_concat before hkey (hfits entry hmem)
      rw [Except.ok.inj horders, value_foldl_concat before' hkey' (hfits entry' hmem')] at hvalue
      exact hne hvalue.symm
    · intro hclash table' hperm
      rw [ofTable_of_fits hfits, ofTable_of_fits (hfits' table' hperm)]
      have hcomm : ∀ entry ∈ table, ∀ entry' ∈ table, ∀ s : Settings,
          (s.put entry).put entry' = (s.put entry').put entry := fun entry hmem entry' hmem' =>
        put_comm (hfits entry hmem) (hfits entry' hmem') (hclash entry hmem entry' hmem')
      rw [hperm.foldl_eq' hcomm]

/-- A table with two settings may be written in either order. -/
theorem ofTable_perm_iff_two :
    let table : Table := [("desired-label", .text "goal"), ("formula_required", .bool false)]
    ofTable table.reverse = ofTable table := by
  intro table
  have hlabel : Setting.ofKey? "desired-label" = some .desiredLabel := by decide +kernel
  have hrequired : Setting.ofKey? "formula_required" = some .formulaRequired := by decide +kernel
  have hfits : ∀ entry ∈ table, Fits entry := by
    simp only [table, List.forall_mem_cons]
    exact ⟨⟨_, hlabel, .desiredLabel _⟩, ⟨_, hrequired, .formulaRequired _⟩, by simp⟩
  refine (((ofTable_perm_iff table).2 hfits).mpr ?_) _ table.reverse_perm.symm
  rintro entry hmem entry' hmem' ⟨setting, hkey, hkey', hne⟩
  simp only [table, List.mem_cons, List.not_mem_nil, or_false] at hmem hmem'
  rcases hmem with rfl | rfl <;> rcases hmem' with rfl | rfl
  · exact hne rfl
  · cases hlabel.symm.trans (hkey.trans (hkey'.symm.trans hrequired))
  · cases hlabel.symm.trans (hkey'.trans (hkey.symm.trans hrequired))
  · exact hne rfl

/-- One setting has two names, and of two entries under them the last one
counts. -/
theorem not_forall_ofTable_perm :
    ¬∀ table table' : Table, (table.map Prod.fst).Nodup → table.Perm table' →
      ((∃ fault, ofTable table = .error fault) ∧ ∃ fault, ofTable table' = .error fault) ∨
        ∃ settings, ofTable table = .ok settings ∧ ofTable table' = .ok settings := by
  intro h
  let hyphen : Text × Data := ("desired-label", .text "a")
  let underscore : Text × Data := ("desired_label", .text "b")
  have hfirst : ofTable [hyphen, underscore] = .ok { desiredLabel := "b" } := rfl
  have hsecond : ofTable [underscore, hyphen] = .ok { desiredLabel := "a" } := rfl
  have hnodup : ([hyphen, underscore].map Prod.fst).Nodup := by
    simp only [hyphen, underscore, List.map_cons, List.map_nil]
    decide
  rcases h _ _ hnodup (List.Perm.swap underscore hyphen []) with
    ⟨⟨fault, hfault⟩, -⟩ | ⟨settings, hsettings, hsettings'⟩
  · cases hfirst.symm.trans hfault
  · have hsame : ({ desiredLabel := "b" } : Settings) = { desiredLabel := "a" } :=
      Except.ok.inj (hfirst.symm.trans (hsettings.trans (hsettings'.symm.trans hsecond)))
    exact absurd hsame (by decide)

end MetricAudit.Settings
