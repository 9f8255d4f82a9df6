/-
MetricAudit.Proofs.Json.Printer — printed data are standard JSON.

What is printed is a text of the grammar (`writes_printAt`), in either
spacing, and so it is read back (`read_print`). The entries of tables
come back in the order of their names (`ordered`), which changes nothing
of what stands under a name (`get?_orderedTable`).

Data that JSON has no texts for are left out (`Writable`): moments,
infinities and `nan`, and tables that name an entry twice.
-/
import Mathlib.Data.List.Perm.Basic
import MetricAudit.Json.Printer
import MetricAudit.Proofs.Json.Grammar
import MetricAudit.Proofs.Number.Shown

namespace MetricAudit.Json

/-! ## The order of entries -/

/-- The first of two entries stands before the other, or has its name. -/
def namedBefore {α : Type} (a b : Text × α) : Bool := !decide (b.1 < a.1)

mutual

/-- The same data with the entries of tables in the order of names. -/
def ordered : Data → Data
  | .list items => .list (orderedItems items)
  | .table entries => .table ((orderedEntries entries).mergeSort namedBefore)
  | d => d

def orderedItems : List Data → List Data
  | [] => []
  | item :: items => ordered item :: orderedItems items

def orderedEntries : List (Text × Data) → List (Text × Data)
  | [] => []
  | (name, value) :: entries => (name, ordered value) :: orderedEntries entries

end

theorem orderedItems_eq (items : List Data) : orderedItems items = items.map ordered := by
  induction items with
  | nil => rfl
  | cons d ds ih => rw [orderedItems, ih, List.map_cons]

theorem orderedEntries_eq (entries : Table) :
    orderedEntries entries = entries.map fun e => (e.1, ordered e.2) := by
  induction entries with
  | nil => rfl
  | cons e es ih => rw [orderedEntries, ih, List.map_cons]

/-- Values are changed in the order that entries have by their names. -/
theorem mergeSort_map_value {α β : Type} (f : α → β) (entries : List (Text × α)) :
    (entries.map fun e => (e.1, f e.2)).mergeSort namedBefore =
      (entries.mergeSort namedBefore).map fun e => (e.1, f e.2) := by
  rw [List.map_mergeSort (s := namedBefore)]
  exact fun _ _ _ _ => rfl

/-- A table with its entries, and those in its values, in the order of
names. -/
def orderedTable (t : Table) : Table := (orderedEntries t).mergeSort namedBefore

theorem ordered_table (t : Table) : ordered (.table t) = .table (orderedTable t) := rfl

theorem ordered_list (items : List Data) : ordered (.list items) = .list (items.map ordered) := by
  rw [ordered, orderedItems_eq]

theorem names_orderedTable_perm (t : Table) : (orderedTable t).names.Perm t.names := by
  have hperm := (List.mergeSort_perm (orderedEntries t) namedBefore).map Prod.fst
  rw [orderedEntries_eq, List.map_map] at hperm
  rw [orderedTable, orderedEntries_eq]
  exact hperm

/-- What stands under a name stands there in any order of the entries. -/
theorem get?_orderedTable {t : Table} (h : t.names.Nodup) (name : Text) :
    (orderedTable t).get? name = (t.get? name).map ordered := by
  have hperm : (orderedTable t).Perm (orderedEntries t) := List.mergeSort_perm _ namedBefore
  rw [Table.get?_of_perm hperm ((names_orderedTable_perm t).nodup_iff.mpr h), orderedEntries_eq]
  simp [Table.get?, List.find?_map, Function.comp_def]

/-- A table holds the same fields in any order of its entries. -/
theorem holds_orderedTable {t : Table} {fields : List (Text × Option Data)} (h : t.Holds fields) :
    (orderedTable t).Holds (fields.map fun f => (f.1, f.2.map ordered)) := by
  have hnames := names_orderedTable_perm t
  refine ⟨hnames.nodup_iff.mpr h.distinct, List.forall_mem_map.mpr fun f hf => ?_, fun n hn => ?_⟩
  · rw [get?_orderedTable h.distinct, h.value f hf]
  · rw [List.map_map]
    exact h.closed n (hnames.mem_iff.mp hn)

/-! ## Strings -/

theorem hexNumber?_control {n : Nat} (hn : n < 0x20) :
    (Text.ofNatPadded 16 4 n).length = 4 ∧ Text.hexNumber? (Text.ofNatPadded 16 4 n) = some n := by
  have hall : ∀ n < 0x20, (Text.ofNatPadded 16 4 n).length = 4 ∧
      Text.hexNumber? (Text.ofNatPadded 16 4 n) = some n := by decide +kernel
  exact hall n hn

theorem writesChar_printChar (c : Char) : WritesChar c (printChar c) := by
  unfold printChar
  split_ifs with h1 h2 h3 h4 h5 h6 h7 h8
  · exact h1 ▸ .letter rfl
  · exact h2 ▸ .letter rfl
  · exact h3 ▸ .letter rfl
  · exact h4 ▸ .letter rfl
  · exact h5 ▸ .letter rfl
  · exact h6 ▸ .letter rfl
  · exact h7 ▸ .letter rfl
  · obtain ⟨hlength, hnumber⟩ := hexNumber?_control h8
    have hunit := WritesChar.unit hlength hnumber (by omega)
    rwa [Char.ofNat_toNat] at hunit
  · exact .plain (Nat.not_lt.mp h8) h1 h2

theorem writesString_printString (s : Text) : WritesString s (printString s) := by
  refine ⟨s.map printChar, ?_, by rw [printString, List.flatMap_def]⟩
  induction s with
  | nil => exact .nil
  | cons c cs ih => exact .cons (writesChar_printChar c) ih

/-! ## Numbers -/

theorem pointed_fraction (p : Spelling) : pointed p.fraction = p.point := by
  rcases p.point_cases with ⟨hnil, hpoint⟩ | ⟨hne, hpoint⟩
  · rw [hpoint, hnil, pointed]
  · obtain ⟨c, cs, hcs⟩ := List.exists_cons_of_ne_nil hne
    rw [hpoint, hcs]
    rfl

theorem writesNumber_printReal {x : Binary64} (hx : x.isFinite = true) :
    WritesNumber (.real x) (printReal x) := by
  have hprint : printReal x = x.shown := by
    cases x with
    | nan => cases hx
    | infinity s => cases hx
    | finite s m k h => rfl
  obtain ⟨p, hshown, hvalue, n, hwhole, hreal⟩ := Spelling.exists_spelling_shown hx
  have hwrites := WritesNumber.real x.isNegative n p.digit_of_mem_fraction p.exponent?_tail hreal
  rw [Spelling.numeral, hwhole] at hvalue
  rw [hvalue, pointed_fraction, ← hwhole] at hwrites
  rw [hprint, hshown]
  exact hwrites

theorem writesNumber_ofInt (n : Int) : WritesNumber (.integer n) (Text.ofInt n) := by
  cases n with
  | ofNat n => exact .integer false n
  | negSucc n => exact .integer true (n + 1)

/-! ## Brackets -/

theorem allSpace_nil : AllSpace [] := fun _ hc => nomatch hc

theorem allSpace_edge (spacing : Spacing) (depth : Nat) : AllSpace (spacing.edge depth) := by
  cases spacing with
  | compact => exact allSpace_nil
  | indented =>
    refine List.forall_mem_cons.mpr ⟨rfl, fun c hc => ?_⟩
    rw [List.eq_of_mem_replicate hc]
    rfl

/-- Between two parts there are a comma and white space. -/
theorem exists_between_eq (spacing : Spacing) (depth : Nat) :
    ∃ w, AllSpace w ∧ spacing.between depth = ',' :: w := by
  cases spacing with
  | compact => exact ⟨[' '], by simp [AllSpace, isSpace], rfl⟩
  | indented => exact ⟨_, allSpace_edge .indented depth, rfl⟩

/-- Parts that are joined are separated by what joins them. -/
theorem separated_join {gap : Text} (hgap : AllSpace gap) {before after : Text}
    (hbefore : AllSpace before) (hafter : AllSpace after) (part : Text) (parts : List Text) :
    Separated (part :: parts) (before ++ (Text.join (',' :: gap) (part :: parts) ++ after)) := by
  induction parts generalizing part before with
  | nil =>
    rw [Text.join, List.intercalate_singleton]
    exact .last hbefore hafter
  | cons q qs ih =>
    have hcons : Separated (part :: q :: qs) _ :=
      Separated.cons hbefore allSpace_nil (ih hgap q)
    simpa [Text.join, List.intercalate_cons_cons] using hcons

theorem enclosed_enclose (spacing : Spacing) (opening closing : Char) (depth : Nat)
    (parts : List Text) :
    Enclosed opening closing parts (spacing.enclose opening closing depth parts) := by
  cases parts with
  | nil => exact ⟨[], rfl, .inl ⟨rfl, allSpace_nil⟩⟩
  | cons p ps =>
    obtain ⟨gap, hgap, hbetween⟩ := exists_between_eq spacing (depth + 1)
    refine ⟨_, ?_, .inr (separated_join hgap (allSpace_edge spacing (depth + 1))
      (allSpace_edge spacing depth) p ps)⟩
    rw [← hbetween, ← List.append_assoc]
    rfl

/-! ## Values -/

/-- Data that JSON has texts for. -/
inductive Writable : Data → Prop
  | nothing : Writable .nothing
  | bool (b : Bool) : Writable (.bool b)
  | integer (n : Int) : Writable (.integer n)
  | real {x : Binary64} (hx : x.isFinite = true) : Writable (.real x)
  | text (s : Text) : Writable (.text s)
  | list {items : List Data} (hitems : ∀ d ∈ items, Writable d) : Writable (.list items)
  | table {entries : Table} (hdistinct : entries.names.Nodup)
      (hvalues : ∀ e ∈ entries, Writable e.2) : Writable (.table entries)

theorem printItems_eq (spacing : Spacing) (depth : Nat) (items : List Data) :
    printItems spacing depth items = items.map (printAt spacing depth) := by
  induction items with
  | nil => rfl
  | cons d ds ih => rw [printItems, ih, List.map_cons]

theorem printEntries_eq (spacing : Spacing) (depth : Nat) (entries : Table) :
    printEntries spacing depth entries =
      entries.map fun e => (e.1, printAt spacing depth e.2) := by
  induction entries with
  | nil => rfl
  | cons e es ih => rw [printEntries, ih, List.map_cons]

/-- An entry as it is printed. -/
def printedMember (spacing : Spacing) (depth : Nat) (e : Text × Data) : Member :=
  { name := e.1
    value := ordered e.2
    nameText := printString e.1
    valueText := printAt spacing depth e.2
    before := []
    after := [' '] }

theorem text_printedMember (spacing : Spacing) (depth : Nat) :
    (Member.text ∘ printedMember spacing depth) =
      printEntry ∘ fun e => (e.1, printAt spacing depth e.2) := by
  funext e
  simp [Member.text, printedMember, printEntry]

theorem printAt_list (spacing : Spacing) (depth : Nat) (items : List Data) :
    printAt spacing depth (.list items) =
      spacing.enclose '[' ']' depth (items.map (printAt spacing (depth + 1))) := by
  rw [printAt, printItems_eq]

/-- The entries of a table are printed in the order of their names. -/
theorem printAt_table (spacing : Spacing) (depth : Nat) (entries : Table) :
    printAt spacing depth (.table entries) = spacing.enclose '\x7b' '\x7d' depth
      (((entries.mergeSort namedBefore).map (printedMember spacing (depth + 1))).map
        Member.text) := by
  have hsort : sortEntries (entries.map fun e => (e.1, printAt spacing (depth + 1) e.2)) =
      (entries.mergeSort namedBefore).map fun e => (e.1, printAt spacing (depth + 1) e.2) :=
    mergeSort_map_value (printAt spacing (depth + 1)) entries
  rw [printAt, printEntries_eq, hsort, List.map_map, List.map_map, text_printedMember]

theorem ordered_table_eq (spacing : Spacing) (depth : Nat) (entries : Table) :
    ordered (.table entries) =
      .table (((entries.mergeSort namedBefore).map (printedMember spacing depth)).map
        Member.entry) := by
  rw [ordered, orderedEntries_eq, mergeSort_map_value, List.map_map]
  rfl

/-- A value is printed as a standard text of it. -/
theorem writes_printAt {d : Data} (h : Writable d) (spacing : Spacing) (depth : Nat) :
    Writes (ordered d) (printAt spacing depth d) := by
  induction h generalizing depth with
  | nothing => exact .nothing
  | bool b => cases b with
    | true => exact .yes
    | false => exact .no
  | integer n => exact .number (writesNumber_ofInt n)
  | real hx => exact .number (writesNumber_printReal hx)
  | text s => exact .string (writesString_printString s)
  | @list items _ ih =>
    have hitems : ∀ i ∈ items.map fun d => (ordered d, printAt spacing (depth + 1) d),
        Writes i.1 i.2 := List.forall_mem_map.mpr fun d hd => ih d hd (depth + 1)
    have hlist := Writes.list hitems (enclosed_enclose spacing '[' ']' depth _)
    rw [List.map_map, List.map_map] at hlist
    rw [ordered_list, printAt_list]
    exact hlist
  | @table entries hdistinct _ ih =>
    have hperm := List.mergeSort_perm entries namedBefore
    rw [ordered_table_eq spacing (depth + 1), printAt_table]
    refine .table ?_ ?_ ?_ ?_ (enclosed_enclose spacing '\x7b' '\x7d' depth _)
    · exact List.forall_mem_map.mpr fun e _ => writesString_printString e.1
    · exact List.forall_mem_map.mpr fun e he => ih e (hperm.mem_iff.mp he) (depth + 1)
    · exact List.forall_mem_map.mpr fun _ _ =>
        ⟨allSpace_nil, by simp [printedMember, AllSpace, isSpace]⟩
    · rw [List.map_map]
      exact (hperm.map Prod.fst).nodup_iff.mpr hdistinct

/-- Putting entries in order does not change how far data reach. -/
theorem within_ordered {d : Data} (h : Writable d) {levels : Nat} (hwithin : d.Within levels) :
    (ordered d).Within levels := by
  induction h generalizing levels with
  | list _ ih =>
    obtain ⟨levels, rfl⟩ := Data.exists_eq_succ_of_list hwithin
    have hitems := Data.within_list_iff.mp hwithin
    rw [ordered_list, Data.within_list_iff]
    exact List.forall_mem_map.mpr fun d hd => ih d hd (hitems d hd)
  | @table entries _ _ ih =>
    obtain ⟨levels, rfl⟩ := Data.exists_eq_succ_of_table hwithin
    have hentries := Data.within_table_iff.mp hwithin
    have hperm := List.mergeSort_perm (orderedEntries entries) namedBefore
    rw [ordered, Data.within_table_iff]
    intro e he
    rw [hperm.mem_iff, orderedEntries_eq] at he
    obtain ⟨entry, hentry, rfl⟩ := List.mem_map.mp he
    exact ih entry hentry (hentries entry hentry)
  | _ => exact hwithin

/-- Data that can be written and nest at most so many levels deep. -/
def Printable (levels : Nat) (d : Data) : Prop := Writable d ∧ d.Within levels

/-- **What is printed is read back.** In either spacing the text of data
is a standard text, and read for the same data, the entries of tables in
the order of their names, wherever there is room for so many levels. -/
theorem read_print {levels : Nat} {d : Data} (h : Printable levels d) (spacing : Spacing) :
    Writes (ordered d) (print spacing d) ∧
      ∀ room : NestingLimit.Room, room.Allows levels →
        read room (print spacing d) = .ok (ordered d) := by
  obtain ⟨hwritable, hwithin⟩ := h
  have hwrites := writes_printAt hwritable spacing 0
  refine ⟨hwrites, fun room hroom => ?_⟩
  have hread := read_of_writes hroom hwrites (within_ordered hwritable hwithin) allSpace_nil
    allSpace_nil
  rwa [List.nil_append, List.append_nil] at hread

section
variable {levels : Nat}

theorem printable_text (s : Text) : Printable levels (.text s) :=
  ⟨.text s, Data.within_of_leaf rfl rfl levels⟩

theorem printable_bool (b : Bool) : Printable levels (.bool b) :=
  ⟨.bool b, Data.within_of_leaf rfl rfl levels⟩

theorem printable_real {x : Binary64} (hx : x.isFinite = true) : Printable levels (.real x) :=
  ⟨.real hx, Data.within_of_leaf rfl rfl levels⟩

theorem printable_list {items : List Data} (h : ∀ d ∈ items, Printable levels d) :
    Printable (levels + 1) (.list items) :=
  ⟨.list fun d hd => (h d hd).1, Data.within_list_iff.mpr fun d hd => (h d hd).2⟩

theorem printable_table {t : Table} (hdistinct : t.names.Nodup)
    (h : ∀ e ∈ t, Printable levels e.2) : Printable (levels + 1) (.table t) :=
  ⟨.table hdistinct fun e he => (h e he).1, Data.within_table_iff.mpr fun e he => (h e he).2⟩

/-- A table of fields, of which every value that is there is
printable. -/
theorem printable_ofFields {fields : List (Text × Option Data)}
    (hdistinct : (fields.map (·.1)).Nodup)
    (h : ∀ f ∈ fields, ∀ d ∈ f.2, Printable levels d) :
    Printable (levels + 1) (.table (Table.ofFields fields)) :=
  printable_table (Table.holds_ofFields hdistinct).distinct fun _ he =>
    h _ (Table.mem_ofFields_iff.mp he) _ rfl

end

end MetricAudit.Json
