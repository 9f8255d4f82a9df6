/-
MetricAudit.Proofs.Data.Extent — how far data reach.

`Data.Within levels` bounds a value in the two ways in which one can be
too large to be shown: it nests at most so many levels deep, and none of
its integers has more digits than can be shown. A list or a table is
within a level more than its parts (`within_list_iff`,
`within_table_iff`), so the bound of a value is worked out along with
the value itself.
-/
import MetricAudit.Data.Value
import MetricAudit.Number.DigitLimit
import MetricAudit.Proofs.Number.Digits

namespace MetricAudit

namespace Data

/-- At most so many levels, and no integer that is too long. -/
def Within (levels : Nat) (d : Data) : Prop :=
  d.depth ≤ levels ∧ d.integerDigits ≤ DigitLimit.most

theorem Within.mono {levels levels' : Nat} {d : Data} (h : d.Within levels)
    (hle : levels ≤ levels') : d.Within levels' :=
  ⟨Nat.le_trans h.1 hle, h.2⟩

/-- A value without parts that is no integer is within every bound. -/
theorem within_of_leaf {d : Data} (hdepth : d.depth = 0) (hdigits : d.integerDigits = 0)
    (levels : Nat) : d.Within levels :=
  ⟨hdepth ▸ Nat.zero_le levels, hdigits ▸ Nat.zero_le DigitLimit.most⟩

theorem within_integer {n : Int} (h : n.natAbs < 10 ^ DigitLimit.most) (levels : Nat) :
    (integer n).Within levels :=
  ⟨Nat.zero_le levels, Text.length_ofNat_le h (by decide)⟩

theorem depthItems_le_iff {n : Nat} {items : List Data} :
    depthItems items ≤ n ↔ ∀ d ∈ items, d.depth ≤ n := by
  induction items with
  | nil => simp [depthItems]
  | cons d ds ih => rw [depthItems, Nat.max_le, ih, List.forall_mem_cons]

theorem depthEntries_le_iff {n : Nat} {entries : Table} :
    depthEntries entries ≤ n ↔ ∀ e ∈ entries, e.2.depth ≤ n := by
  induction entries with
  | nil => simp [depthEntries]
  | cons e es ih => rw [depthEntries, Nat.max_le, ih, List.forall_mem_cons]

theorem integerDigitsItems_le_iff {n : Nat} {items : List Data} :
    integerDigitsItems items ≤ n ↔ ∀ d ∈ items, d.integerDigits ≤ n := by
  induction items with
  | nil => simp [integerDigitsItems]
  | cons d ds ih => rw [integerDigitsItems, Nat.max_le, ih, List.forall_mem_cons]

theorem integerDigitsEntries_le_iff {n : Nat} {entries : Table} :
    integerDigitsEntries entries ≤ n ↔ ∀ e ∈ entries, e.2.integerDigits ≤ n := by
  induction entries with
  | nil => simp [integerDigitsEntries]
  | cons e es ih => rw [integerDigitsEntries, Nat.max_le, ih, List.forall_mem_cons]

end Data

/-- The values of a table reach at most so far. -/
def Table.Within (levels : Nat) (t : Table) : Prop := ∀ e ∈ t, e.2.Within levels

namespace Data

theorem within_list_iff {levels : Nat} {items : List Data} :
    (list items).Within (levels + 1) ↔ ∀ d ∈ items, d.Within levels := by
  simp only [Within, depth, integerDigits, Nat.add_le_add_iff_right, depthItems_le_iff,
    integerDigitsItems_le_iff, forall_and]

theorem within_table_iff {levels : Nat} {t : Table} :
    (table t).Within (levels + 1) ↔ t.Within levels := by
  simp only [Table.Within, Within, depth, integerDigits, Nat.add_le_add_iff_right,
    depthEntries_le_iff, integerDigitsEntries_le_iff, forall_and]

/-- A list takes a level. -/
theorem exists_eq_succ_of_list {levels : Nat} {items : List Data}
    (h : (list items).Within levels) : ∃ n, levels = n + 1 :=
  Nat.exists_eq_add_one_of_ne_zero fun hzero => by
    have hle := h.1
    rw [depth] at hle
    omega

/-- A table takes a level. -/
theorem exists_eq_succ_of_table {levels : Nat} {t : Table}
    (h : (table t).Within levels) : ∃ n, levels = n + 1 :=
  Nat.exists_eq_add_one_of_ne_zero fun hzero => by
    have hle := h.1
    rw [depth] at hle
    omega

end Data

namespace Table

theorem within_nil (levels : Nat) : Table.Within levels [] := fun e he => by cases he

theorem Within.get? {levels : Nat} {t : Table} (h : t.Within levels) {name : Text}
    {value : Data} (hget : t.get? name = some value) : value.Within levels := by
  obtain ⟨e, he, rfl⟩ := Option.map_eq_some_iff.mp hget
  exact h e (List.mem_of_find?_eq_some he)

theorem Within.set {levels : Nat} {t : Table} (h : t.Within levels) (name : Text)
    {value : Data} (hvalue : value.Within levels) : (t.set name value).Within levels := by
  induction t with
  | nil => simpa [Table.set, Table.Within] using hvalue
  | cons e es ih =>
    obtain ⟨he, hes⟩ := List.forall_mem_cons.mp h
    rw [Table.set]
    split
    · exact List.forall_mem_cons.mpr ⟨hvalue, hes⟩
    · exact List.forall_mem_cons.mpr ⟨he, ih hes⟩

end Table
end MetricAudit
