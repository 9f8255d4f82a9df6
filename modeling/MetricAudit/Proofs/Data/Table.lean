/-
MetricAudit.Proofs.Data.Table — tables by their names.

A table that gives no name twice is known by what stands under its names
(`get?_eq_some_iff_mem`): the order of its entries makes no difference
(`get?_of_perm`). `Table.Holds` says all that a table holds, name by
name, and that it holds nothing else.
-/
import Mathlib.Data.List.Nodup
import MetricAudit.Data.Value

namespace MetricAudit.Table

/-! ## Looking up -/

theorem get?_eq_none_iff {t : Table} {name : Text} : t.get? name = none ↔ name ∉ t.names := by
  rw [get?, Option.map_eq_none_iff, List.find?_eq_none, names, List.mem_map]
  constructor
  · rintro h ⟨e, he, rfl⟩
    exact h e he (beq_self_eq_true e.1)
  · exact fun h e he heq => h ⟨e, he, eq_of_beq heq⟩

/-- Under a name that stands once, a value is found where it stands. -/
theorem get?_eq_some_iff_mem {t : Table} (ht : t.names.Nodup) {name : Text} {value : Data} :
    t.get? name = some value ↔ (name, value) ∈ t := by
  induction t with
  | nil => simp [get?]
  | cons e es ih =>
    obtain ⟨hnew, hes⟩ := List.nodup_cons.mp ht
    obtain ⟨k, v⟩ := e
    by_cases hk : k = name
    · subst hk
      have hother : (k, value) ∉ es := fun hmem =>
        hnew (List.mem_map.mpr ⟨_, hmem, rfl⟩)
      simp [get?, hother, eq_comm]
    · have hne : name ≠ k := Ne.symm hk
      simpa [get?, hk, hne] using ih hes

theorem get?_of_perm {t u : Table} (h : t.Perm u) (ht : t.names.Nodup) (name : Text) :
    t.get? name = u.get? name := by
  have hu : u.names.Nodup := (h.map _).nodup_iff.mp ht
  refine Option.ext fun value => ?_
  rw [get?_eq_some_iff_mem ht, get?_eq_some_iff_mem hu, h.mem_iff]

/-- A new name is put at the end. -/
theorem set_of_not_mem {t : Table} {name : Text} (h : name ∉ t.names) (value : Data) :
    t.set name value = t ++ [(name, value)] := by
  induction t with
  | nil => rfl
  | cons e es ih =>
    rw [names, List.map_cons, List.mem_cons, not_or] at h
    rw [set, if_neg (Ne.symm h.1), ih h.2]
    rfl

/-! ## Tables of fields -/

/-- A table of those fields that have a value. -/
def ofFields (fields : List (Text × Option Data)) : Table :=
  fields.filterMap fun f => f.2.map (f.1, ·)

/-- The table holds under each name what the fields say, and nothing
else. -/
structure Holds (t : Table) (fields : List (Text × Option Data)) : Prop where
  distinct : t.names.Nodup
  value : ∀ f ∈ fields, t.get? f.1 = f.2
  closed : ∀ name ∈ t.names, name ∈ fields.map (·.1)

/-- A table says one thing under a name. -/
theorem Holds.eq_of_mem {t : Table} {fields fields' : List (Text × Option Data)}
    (h : t.Holds fields) (h' : t.Holds fields') (name : Text) {o o' : Option Data}
    (ho : (name, o) ∈ fields) (ho' : (name, o') ∈ fields') : o = o' :=
  (h.value _ ho).symm.trans (h'.value _ ho')

theorem mem_ofFields_iff {fields : List (Text × Option Data)} {e : Text × Data} :
    e ∈ ofFields fields ↔ (e.1, some e.2) ∈ fields := by
  simp only [ofFields, List.mem_filterMap, Option.map_eq_some_iff]
  constructor
  · rintro ⟨⟨n, o⟩, hmem, v, rfl, rfl⟩
    exact hmem
  · exact fun hmem => ⟨_, hmem, _, rfl, rfl⟩

theorem names_ofFields_sublist (fields : List (Text × Option Data)) :
    (ofFields fields).names.Sublist (fields.map (·.1)) := by
  induction fields with
  | nil => exact List.Sublist.slnil
  | cons f fs ih =>
    obtain ⟨n, o⟩ := f
    cases o with
    | none => exact ih.cons n
    | some v => exact ih.cons_cons n

theorem holds_ofFields {fields : List (Text × Option Data)} (h : (fields.map (·.1)).Nodup) :
    (ofFields fields).Holds fields := by
  have hdistinct := h.sublist (names_ofFields_sublist fields)
  refine ⟨hdistinct, ?_, (names_ofFields_sublist fields).subset⟩
  rintro ⟨n, o⟩ hf
  refine Option.ext fun v => ?_
  rw [get?_eq_some_iff_mem hdistinct, mem_ofFields_iff]
  constructor
  · intro hv
    exact congrArg Prod.snd (List.inj_on_of_nodup_map h hf hv rfl)
  · rintro rfl
    exact hf

end MetricAudit.Table
