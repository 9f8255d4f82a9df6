/-
MetricAudit.Proofs.Document.Shape — which values have a shape.

A value has a shape where no fault is listed (`Shape.Has`). What that
asks of the value is stated once for every kind of shape: a record has
its required fields, those of its entries that are named as a field have
the shape of that field, and a closed one has no further entries
(`has_record_iff`). What a shape of several levels asks is put together
from these.
-/
import Mathlib.Data.List.Forall2
import MetricAudit.Document.Shape
import MetricAudit.Proofs.Data.Table

namespace MetricAudit

/-- What is related item by item is related to something. -/
theorem exists_mem_of_forall₂ {α β : Type} {R : α → β → Prop} {as : List α} {bs : List β}
    (h : List.Forall₂ R as bs) {b : β} (hb : b ∈ bs) : ∃ a ∈ as, R a b := by
  induction h with
  | nil => cases hb
  | @cons a _ _ _ hab _ ih =>
    rcases List.mem_cons.mp hb with rfl | hb
    · exact ⟨a, List.mem_cons_self .., hab⟩
    · obtain ⟨a', ha', hR⟩ := ih hb
      exact ⟨a', List.mem_cons_of_mem a ha', hR⟩

namespace Document.Shape

/-- The value has the shape: nothing is wrong with it. -/
def Has (shape : Shape) (value : Data) : Prop := shape.faults value = []

/-! ## Values without parts -/

theorem has_text_iff {value : Data} : text.Has value ↔ ∃ s, value = .text s := by
  cases value <;> simp [Has, faults, here]

theorem has_optionalText_iff {value : Data} :
    optionalText.Has value ↔ value = .nothing ∨ ∃ s, value = .text s := by
  cases value <;> simp [Has, faults, here]

theorem has_truth_iff {value : Data} : truth.Has value ↔ ∃ b, value = .bool b := by
  cases value <;> simp [Has, faults, here]

theorem has_number_iff {value : Data} :
    number.Has value ↔ (∃ n, value = .integer n) ∨ ∃ x, value = .real x := by
  cases value <;> simp [Has, faults, here]

@[simp] theorem has_named_iff {name : Text} {shape : Shape} {value : Data} :
    (named name shape).Has value ↔ shape.Has value := by
  rw [Has, faults_named, Has]

/-! ## Lists and tables -/

theorem within_eq_nil_iff {step : Step} {fs : List Fault} : within step fs = [] ↔ fs = [] :=
  List.map_eq_nil_iff

theorem itemFaults_eq_nil_iff {f : Data → List Fault} {position : Nat} {values : List Data} :
    itemFaults f position values = [] ↔ ∀ value ∈ values, f value = [] := by
  induction values generalizing position with
  | nil => simp [itemFaults]
  | cons value values ih =>
    rw [itemFaults, List.append_eq_nil_iff, within_eq_nil_iff, ih, List.forall_mem_cons]

theorem has_list_iff {item : Shape} {value : Data} :
    (list item).Has value ↔ ∃ values, value = .list values ∧ ∀ v ∈ values, item.Has v := by
  cases value <;> simp [Has, faults, here, itemFaults_eq_nil_iff]

theorem has_tableOf_iff {shape : Shape} {value : Data} :
    (tableOf shape).Has value ↔
      ∃ entries, value = .table entries ∧ ∀ e ∈ entries, shape.Has e.2 := by
  cases value <;> simp [Has, faults, here, valueFaults, within_eq_nil_iff]

/-- What stands under a name has the shape. -/
def HasAt (shape : Shape) (entries : Table) (name : Text) : Prop :=
  ∀ value, entries.get? name = some value → shape.Has value

theorem fieldFaults_eq_nil_iff {fields : List (Text × Shape)} {entries : Table} :
    fieldFaults fields entries = [] ↔ ∀ field ∈ fields, field.2.HasAt entries field.1 := by
  induction fields with
  | nil => simp [fieldFaults]
  | cons field fields ih =>
    obtain ⟨name, shape⟩ := field
    rw [fieldFaults, List.append_eq_nil_iff, ih, List.forall_mem_cons]
    refine and_congr_left' ?_
    cases h : entries.get? name <;> simp [within_eq_nil_iff, HasAt, Has, h]

theorem missing_eq_nil_iff {required : List Text} {entries : Table} :
    missing required entries = [] ↔
      ∀ name ∈ required, ∃ value, entries.get? name = some value := by
  simp [missing, here, Option.ne_none_iff_exists']

theorem unexpected_eq_nil_iff {fields : List Text} {entries : Table} :
    unexpected fields entries = [] ↔ ∀ name ∈ entries.names, name ∈ fields := by
  have hsorted : Text.sorted (entries.names.filter fun name => !fields.contains name) = [] ↔
      ∀ name ∈ entries.names, name ∈ fields := by
    rw [Text.sorted, ← List.length_eq_zero_iff, List.length_mergeSort, List.length_eq_zero_iff,
      List.filter_eq_nil_iff]
    simp
  unfold unexpected
  split <;> simp_all [here]

/-- What is asked of a record. -/
theorem has_record_iff {fields : List (Text × Shape)} {required : List Text} {closed : Bool}
    {value : Data} :
    (record fields required closed).Has value ↔
      ∃ entries : Table, value = .table entries ∧
        (∀ field ∈ fields, field.2.HasAt entries field.1) ∧
        (∀ name ∈ required, ∃ v, entries.get? name = some v) ∧
        (closed = true → ∀ name ∈ entries.names, name ∈ fields.map (·.1)) := by
  cases value with
  | table entries =>
    rw [Has, faults, List.append_eq_nil_iff, List.append_eq_nil_iff, fieldFaults_eq_nil_iff,
      missing_eq_nil_iff]
    cases closed <;> simp [unexpected_eq_nil_iff, and_assoc]
  | _ => simp [Has, faults, here]

/-- A table of fields is a record where each field has its shape. -/
theorem has_record_of_holds {t : Table} {fields : List (Text × Option Data)} (h : t.Holds fields)
    {shapes : List (Text × Shape)} {required : List Text} {closed : Bool}
    (hshapes : List.Forall₂ (fun f s => f.1 = s.1 ∧ ∀ v ∈ f.2, s.2.Has v) fields shapes)
    (hrequired : ∀ name ∈ required, ∃ v, (name, some v) ∈ fields) :
    (record shapes required closed).Has (.table t) := by
  have hnames : fields.map (·.1) = shapes.map (·.1) :=
    List.forall₂_eq_eq_eq ▸ List.forall₂_map_left_iff.mpr
      (List.forall₂_map_right_iff.mpr (hshapes.imp fun _ _ hfs => hfs.1))
  refine has_record_iff.mpr ⟨t, rfl, ?_, ?_, fun _ => hnames ▸ h.closed⟩
  · intro s hs value hvalue
    obtain ⟨f, hf, hname, hhas⟩ := exists_mem_of_forall₂ hshapes hs
    exact hhas value (((h.value f hf).symm.trans (hname ▸ hvalue)))
  · intro name hname
    obtain ⟨v, hv⟩ := hrequired name hname
    exact ⟨v, h.value _ hv⟩

end Document.Shape
end MetricAudit
