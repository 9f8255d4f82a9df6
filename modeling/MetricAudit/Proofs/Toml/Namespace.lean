/-
MetricAudit.Proofs.Toml.Namespace — how deep tables within tables get.

A change behind a key reaches as deep as the key is long and the value
goes, and leaves everything else as deep as it was (`Keeps.inside`). Every
part of a key takes two levels at most, a list and a table in it. A
document in the making whose header is no longer than `bound` therefore
stays within four times that (`Draft.Fits`), where keys and values do.
-/
import MetricAudit.Proofs.Data.Extent
import MetricAudit.Proofs.Text.Reading
import MetricAudit.Toml.Namespace

namespace MetricAudit.Toml

/-- A change that gives a table within as many levels as it had, from
`least` levels on. -/
def Keeps (least : Nat) (change : Table → Except Complaint Table) : Prop :=
  ∀ levels t, least ≤ levels → t.Within levels →
    Ensures (fun _ => True) (Table.Within levels) (change t)

theorem keeps_ok : Keeps 0 (fun t => .ok t) := fun _ _ _ ht => ht

theorem keeps_define (name : Text) {value : Data} {least : Nat} (hvalue : value.Within least)
    (taken : Complaint) : Keeps least (define name value taken) := by
  intro levels t hleast ht
  unfold define
  split
  · exact ht.set name (hvalue.mono hleast)
  · trivial

/-- An empty table in a list takes two levels. -/
theorem keeps_appendTable (name : Text) : Keeps 2 (appendTable name) := by
  intro levels t hleast ht
  have htable : (Data.table []).Within 1 := Data.within_table_iff.mpr (Table.within_nil 0)
  unfold appendTable
  split
  · refine ht.set name (Data.Within.mono ?_ hleast)
    exact Data.within_list_iff.mpr (List.forall_mem_singleton.mpr htable)
  · rename_i items hitems
    have hlist := ht.get? hitems
    obtain ⟨n, rfl⟩ := Data.exists_eq_succ_of_list hlist
    refine ht.set name (Data.within_list_iff.mpr ?_)
    exact List.forall_mem_append.mpr ⟨Data.within_list_iff.mp hlist,
      List.forall_mem_singleton.mpr (htable.mono (Nat.le_of_succ_le_succ hleast))⟩
  · trivial

/-- Behind a key of so many parts, each at most two levels. -/
theorem Keeps.inside {least : Nat} {change : Table → Except Complaint Table}
    (hchange : Keeps least change) (throughLists : Bool) (key : Key) :
    Keeps (least + 2 * key.length) (inside throughLists change key) := by
  induction key with
  | nil => exact hchange
  | cons k ks ih =>
    intro levels t hleast ht
    rw [List.length_cons] at hleast
    obtain ⟨n, rfl⟩ : ∃ n, levels = n + 2 := ⟨levels - 2, by omega⟩
    have hkeep : ∀ m inner, n ≤ m → inner.Within m →
        Ensures (fun _ => True) (Table.Within m) (Toml.inside throughLists change ks inner) :=
      fun m inner hm => ih m inner (by omega)
    unfold Toml.inside
    split
    · refine (hkeep (n + 1) [] (by omega) (Table.within_nil _)).bind fun inner hinner => ?_
      exact ht.set k (Data.within_table_iff.mpr hinner)
    · rename_i inner hget
      have hinner := Data.within_table_iff.mp (ht.get? hget)
      refine (hkeep (n + 1) inner (by omega) hinner).bind fun inner' hinner' => ?_
      exact ht.set k (Data.within_table_iff.mpr hinner')
    · rename_i items hget
      have hitems := Data.within_list_iff.mp (ht.get? hget)
      split
      · rename_i inner hlast
        have hinner := Data.within_table_iff.mp (hitems _ (List.mem_of_getLast? hlast))
        refine (hkeep n inner (Nat.le_refl n) hinner).bind fun inner' hinner' => ?_
        refine ht.set k (Data.within_list_iff.mpr (List.forall_mem_append.mpr ⟨?_, ?_⟩))
        · exact fun d hd => hitems d ((List.dropLast_sublist items).subset hd)
        · exact List.forall_mem_singleton.mpr (Data.within_table_iff.mpr hinner')
      · trivial
    · trivial

/-- A value under a key. -/
theorem keeps_defineAt (throughLists : Bool) (taken : Text → Complaint) (key : Key)
    {value : Data} {least : Nat} (hvalue : value.Within least) :
    Keeps (least + 2 * (key.length - 1)) (defineAt throughLists taken key value) := by
  intro levels t hleast ht
  unfold defineAt
  split
  · exact ht
  · rename_i name _
    have hkeep := (keeps_define name hvalue (taken name)).inside throughLists key.dropLast
    rw [List.length_dropLast] at hkeep
    exact hkeep levels t hleast ht

/-! ## Documents in the making -/

namespace Draft

/-- A header of no more than `bound` parts, and data within four times as
many levels: two for each part of the header, and two for each part of a
key or level of a value. -/
def Fits (bound : Nat) (d : Draft) : Prop :=
  d.header.length ≤ bound ∧ d.data.Within (4 * bound)

section
variable {bound : Nat} {d : Draft} {key : Key}

theorem Fits.settle (h : d.Fits bound) : d.settle.Fits bound := h

theorem Fits.openTable (h : d.Fits bound) (hkey : key.length ≤ bound) :
    Ensures (fun _ => True) (Fits bound) (d.openTable key) := by
  unfold Draft.openTable
  split
  · trivial
  · refine (keeps_ok.inside true key _ _ (by omega) h.2).bind fun data hdata => ?_
    exact ⟨hkey, hdata⟩

theorem Fits.openItem (h : d.Fits bound) (hkey : key.length ≤ bound) :
    Ensures (fun _ => True) (Fits bound) (d.openItem key) := by
  unfold Draft.openItem
  split
  · split
    · trivial
    · exact h
  · rename_i name hname
    split
    · trivial
    · have hpos : 0 < key.length :=
        List.length_pos_of_mem (List.mem_of_getLast? hname)
      have hkeep := (keeps_appendTable name).inside true key.dropLast
      rw [List.length_dropLast] at hkeep
      refine (hkeep _ _ (by omega) h.2).bind fun data hdata => ?_
      exact ⟨hkey, hdata⟩

/-- A pair fits whose value is within as many levels as its key leaves. -/
theorem Fits.addPair (h : d.Fits bound) {value : Data} {least : Nat}
    (hvalue : value.Within least) (hkey : 2 * (key.length - 1) + least ≤ 2 * bound) :
    Ensures (fun _ => True) (Fits bound) (d.addPair key value) := by
  unfold Draft.addPair
  dsimp only
  split
  · trivial
  · split
    · trivial
    · have hheader := h.1
      refine (keeps_defineAt true _ (d.header ++ key) hvalue _ _ ?_ h.2).bind fun data hdata => ?_
      · rw [List.length_append]
        omega
      · exact ⟨hheader, hdata⟩

end

end Draft
end MetricAudit.Toml
