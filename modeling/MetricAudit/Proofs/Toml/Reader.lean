/-
MetricAudit.Proofs.Toml.Reader — how far the TOML reader gets.

The reader meets two limits: an integer of too many digits, and values
that nest too deep. In a text whose runs of digits are short, no integer
is too long, and every level that is opened takes one mark and no more
than three of the levels there is room for. So a limit is met only where
the marks are many, and what is read is within four levels for each of
them (`read_ensures`).

Keys count as well: tables come from the parts of a key, which stand on
either side of a point (`readKey_ensures`).
-/
import MetricAudit.Proofs.Toml.Namespace
import MetricAudit.Proofs.Toml.Scalars

namespace MetricAudit.Toml

open Text (Reads ShortRuns Skips marks marks_le_of_suffix marks_cons_of_isMark reads_ok
  suffix_of_dropWhile)

section
variable (left : Int)

/-! ## White space and comments -/

theorem skipSpace_suffix (s : Text) : skipSpace s <:+ s := List.dropWhile_suffix _

theorem skipFiller_skips (comment : Bool) (s : Text) :
    Skips (Exceeded left) s (skipFiller comment s) := by
  induction s generalizing comment with
  | nil => cases comment <;> exact List.suffix_rfl
  | cons c s ih =>
    have hlater : ∀ comment, Skips (Exceeded left) (c :: s) (skipFiller comment s) :=
      fun comment => (ih comment).of_suffix (List.suffix_cons c s)
    cases comment with
    | true =>
      rw [skipFiller]
      split
      · exact hlater false
      · split
        · exact exceeded_misplaced _ _
        · exact hlater true
    | false =>
      rw [skipFiller]
      split
      · exact hlater false
      · split
        · exact hlater true
        · exact List.suffix_rfl

theorem skipCommentText_skips (s : Text) :
    Skips (Exceeded left) s (skipCommentText s) := by
  induction s with
  | nil => exact List.suffix_rfl
  | cons c s ih =>
    rw [skipCommentText]
    split
    · exact List.suffix_rfl
    · split
      · exact exceeded_misplaced _ _
      · exact ih.of_suffix (List.suffix_cons c s)

theorem skipComment_skips (s : Text) :
    Skips (Exceeded left) s (skipComment s) := by
  unfold skipComment
  split
  · exact (skipCommentText_skips left _).of_suffix (List.suffix_cons _ _)
  · exact List.suffix_rfl

/-! ## Keys -/

theorem readKeyPart_reads (s : Text) :
    Reads (Exceeded left) s (fun _ => True) (readKeyPart s) := by
  unfold readKeyPart
  split
  · cases hline : readLineString? s with
    | none => exact reads_stop _ _
    | some x => exact readLineString?_reads left hline
  · exact reads_ok (List.dropWhile_suffix _) trivial

/-- A key has a part more than points, and points are marks. -/
def IsKeyOf (s : Text) (r : Key × Text) : Prop :=
  r.2 <:+ s ∧ r.1.length + marks r.2 ≤ marks s + 1

theorem IsKeyOf.of_suffix {s t : Text} {r : Key × Text} (h : IsKeyOf t r) (hs : t <:+ s) :
    IsKeyOf s r :=
  ⟨h.1.trans hs, h.2.trans (Nat.succ_le_succ (marks_le_of_suffix hs))⟩

theorem IsKeyOf.leave {s rest t : Text} {key : Key} (h : IsKeyOf s (key, rest)) (ht : t <:+ rest) :
    IsKeyOf s (key, t) :=
  ⟨ht.trans h.1, (Nat.add_le_add_left (marks_le_of_suffix ht) key.length).trans h.2⟩

/-- A part and a point before a key. -/
theorem IsKeyOf.cons {s t : Text} {key : Key} {rest : Text} (h : IsKeyOf t (key, rest))
    (hs : '.' :: t <:+ s) (part : Text) : IsKeyOf s (part :: key, rest) := by
  have hkey : key.length + marks rest ≤ marks t + 1 := h.2
  have hmarks : marks t + 1 ≤ marks s :=
    marks_cons_of_isMark (c := '.') rfl t ▸ marks_le_of_suffix hs
  refine ⟨h.1.trans ((List.suffix_cons '.' t).trans hs), ?_⟩
  change key.length + 1 + marks rest ≤ marks s + 1
  omega

theorem isKeyOf_singleton {s rest : Text} (hs : rest <:+ s) (part : Text) :
    IsKeyOf s ([part], rest) := by
  have hmarks := marks_le_of_suffix hs
  refine ⟨hs, ?_⟩
  change 1 + marks rest ≤ marks s + 1
  omega

theorem readKey_ensures (fuel : Nat) (s : Text) :
    Ensures (Exceeded left s) (IsKeyOf s) (readKey fuel s) := by
  induction fuel generalizing s with
  | zero => exact exceeded_misplaced _ _
  | succ fuel ih =>
    rw [readKey]
    refine Ensures.bind (readKeyPart_reads left s) fun r hr => ?_
    obtain ⟨part, rest⟩ := r
    have hrest := (skipSpace_suffix rest).trans hr.1
    dsimp only
    split
    · rename_i t hpoint
      rw [hpoint] at hrest
      have ht := (skipSpace_suffix t).trans ((List.suffix_cons '.' t).trans hrest)
      refine Ensures.bind ((ih (skipSpace t)).imp (fun _ => Text.Rising.of_suffix ht)
        fun _ hkey => hkey.of_suffix (skipSpace_suffix t)) fun r hr => ?_
      exact IsKeyOf.cons hr hrest part
    · exact isKeyOf_singleton hrest part

theorem readKeyEquals_ensures (s : Text) :
    Ensures (Exceeded left s) (IsKeyOf s) (readKeyEquals s) := by
  unfold readKeyEquals
  refine (readKey_ensures left _ s).bind fun r hr => ?_
  obtain ⟨key, rest⟩ := r
  dsimp only
  split
  · rename_i t
    exact IsKeyOf.leave hr ((skipSpace_suffix t).trans (List.suffix_cons '=' t))
  · exact exceeded_misplaced _ _

/-! ## Values -/

theorem placed_ensures {α : Type} {P : α → Prop} {x : Except Complaint α} (s rest : Text)
    (h : Ensures (fun _ => True) P x) : Ensures (Exceeded left s) P (placed rest x) := by
  cases x with
  | ok a => exact h
  | error complaint => exact exceeded_misplaced _ _

end

/-- Behind a mark there are up to three levels less, and a mark less. -/
theorem reads_of_mark {α : Type} {left : Int} (levels : Nat) {c : Char} {s : Text}
    {P : α → Prop} {x : Except Fault (α × Text)} (hc : Text.isMark c = true)
    (hlevels : levels ≤ 3) (h : Reads (Exceeded (left - levels)) s P x) :
    Reads (Exceeded left) (c :: s) P x := by
  have hmarks := marks_cons_of_isMark hc s
  refine h.imp (fun f hf hlimit => ?_) fun r hr => ⟨hr.1.trans (List.suffix_cons c s), hr.2⟩
  have hleft := hf hlimit
  omega

/-- There is no room for a value only where more levels are open than can
always be. -/
theorem reads_tooDeep {α : Type} {room : NestingLimit.Room} {most levels : Nat}
    (hroom : room.Allows most) {s : Text} {P : α → Prop} (h : ¬room levels s = true)
    (task : NestingLimit.Task) :
    Reads (Exceeded (most - levels)) s P (.error (.tooDeep task)) := by
  have hlevels : most < levels := Nat.lt_of_not_le fun hle => h (hroom levels s hle)
  intro _
  omega

/-- A mark is worth two levels. -/
theorem two_mul_marks_cons {c : Char} (hc : Text.isMark c = true) (s : Text) :
    2 * marks (c :: s) = 2 * marks s + 1 + 1 := by
  rw [marks_cons_of_isMark hc, Nat.mul_succ]

section
variable (room : NestingLimit.Room) (most : Nat)

/-- What is read in so many steps, where `most` levels can be open. -/
structure ReadsAll (fuel : Nat) : Prop where
  value : ∀ (levels : Nat) s, ShortRuns s →
    Reads (Exceeded (most - levels)) s (Data.Within (2 * marks s)) (readValue room fuel levels s)
  items : ∀ (levels : Nat) s, ShortRuns s →
    Reads (Exceeded (most - levels)) s (fun items => ∀ d ∈ items, d.Within (2 * marks s))
      (readItems room fuel levels s)
  pairs : ∀ (levels bound : Nat) entries frozen s, ShortRuns s → 2 * marks s ≤ bound →
    entries.Within bound →
    Reads (Exceeded (most - levels)) s (Table.Within bound)
      (readPairs room fuel levels entries frozen s)

end

section
variable {room : NestingLimit.Room} {most fuel : Nat} {s : Text}

/-- A list or a table takes one of the levels of its mark. -/
theorem readValue_reads (hroom : room.Allows most) (h : ReadsAll room most fuel) (levels : Nat)
    (hs : ShortRuns s) :
    Reads (Exceeded (most - levels)) s (Data.Within (2 * marks s))
      (readValue room (fuel + 1) levels s) := by
  have hnext : ∀ n : Nat, ((most : Int) - levels) - n = most - (levels + n : Nat) := by omega
  unfold readValue
  split
  · split
    · rename_i hread
      refine (readString?_reads _ hread).bind fun string rest _ _ => ?_
      exact reads_ok List.suffix_rfl (Data.within_of_leaf rfl rfl _)
    · split
      · rename_i t _ _
        have ht := hs.of_suffix (List.suffix_cons _ t)
        rw [two_mul_marks_cons rfl]
        refine reads_of_mark NestingLimit.listLevels rfl (by decide) ?_
        rw [hnext]
        refine (skipFiller_skips _ false t).bind fun u hu => ?_
        split
        · refine reads_ok (List.suffix_cons _ _) (Data.within_list_iff.mpr fun d hd => ?_)
          cases hd
        · have hle := marks_le_of_suffix hu
          refine (h.items _ u (ht.of_suffix hu)).bind fun items rest _ hitems => ?_
          refine reads_ok List.suffix_rfl (Data.within_list_iff.mpr fun d hd => ?_)
          exact (hitems d hd).mono (by omega)
      · rename_i t _ _
        have ht := hs.of_suffix (List.suffix_cons _ t)
        rw [two_mul_marks_cons rfl]
        refine reads_of_mark NestingLimit.tableLevels rfl (by decide) ?_
        rw [hnext]
        split
        · rename_i hclose
          exact reads_ok (suffix_of_dropWhile hclose)
            (Data.within_table_iff.mpr (Table.within_nil _))
        · have hskip := skipSpace_suffix t
          have hle := marks_le_of_suffix hskip
          have hpairs := h.pairs (levels + NestingLimit.tableLevels) (2 * marks t + 1) [] [] _
            (ht.of_suffix hskip) (by omega) (Table.within_nil _)
          refine (hpairs.of_suffix hskip).bind fun entries rest _ hentries => ?_
          exact reads_ok List.suffix_rfl (Data.within_table_iff.mpr hentries)
      · exact (readScalar_reads _ hs).mono fun _ hvalue => hvalue.mono (Nat.zero_le _)
  · rename_i hfull
    exact reads_tooDeep hroom hfull _

theorem readItems_reads (h : ReadsAll room most fuel) (levels : Nat) (hs : ShortRuns s) :
    Reads (Exceeded (most - levels)) s (fun items => ∀ d ∈ items, d.Within (2 * marks s))
      (readItems room (fuel + 1) levels s) := by
  rw [readItems]
  refine (h.value levels s hs).bind fun item rest hrest hitem => ?_
  have hone : ∀ d ∈ [item], d.Within (2 * marks s) := List.forall_mem_singleton.mpr hitem
  refine (skipFiller_skips _ false rest).bind fun t ht => ?_
  split
  · exact reads_ok (List.suffix_cons _ _) hone
  · rename_i t'
    refine Reads.of_suffix ?_ (List.suffix_cons ',' t')
    refine (skipFiller_skips _ false t').bind fun u hu => ?_
    split
    · exact reads_ok (List.suffix_cons _ _) hone
    · have husuffix := hu.trans ((List.suffix_cons ',' t').trans (ht.trans hrest))
      have hle := marks_le_of_suffix husuffix
      refine (h.items levels u (hs.of_suffix husuffix)).bind fun items v _ hitems => ?_
      refine reads_ok List.suffix_rfl (List.forall_mem_cons.mpr ⟨hitem, fun d hd => ?_⟩)
      exact (hitems d hd).mono (by omega)
  · exact reads_stop _ _

/-- The marks of a key and those of its value are not the same, so the
two together are not too deep. -/
theorem readPairs_reads (h : ReadsAll room most fuel) (levels : Nat) {bound : Nat}
    {entries : Table} (frozen : List Key) (hs : ShortRuns s) (hbound : 2 * marks s ≤ bound)
    (hentries : entries.Within bound) :
    Reads (Exceeded (most - levels)) s (Table.Within bound)
      (readPairs room (fuel + 1) levels entries frozen s) := by
  rw [readPairs]
  refine Ensures.bind (readKeyEquals_ensures _ s) fun r hr => ?_
  obtain ⟨key, rest⟩ := r
  obtain ⟨hrest, hkey⟩ := hr
  dsimp only at hrest hkey ⊢
  have hmarks := marks_le_of_suffix hrest
  refine ((h.value levels rest (hs.of_suffix hrest)).of_suffix hrest).bind
    fun value t ht hvalue => ?_
  dsimp only
  split
  · exact reads_stop _ _
  · refine Ensures.bind (placed_ensures _ t t (keeps_defineAt false _ key hvalue bound entries
      (by omega) hentries)) fun entries hentries => ?_
    split
    · rename_i hclose
      exact reads_ok (suffix_of_dropWhile hclose) hentries
    · rename_i u hcomma
      have hu := (skipSpace_suffix u).trans (suffix_of_dropWhile hcomma)
      have hle := marks_le_of_suffix (hu.trans ht)
      exact (h.pairs levels bound entries _ _ (hs.of_suffix (hu.trans ht))
        (by omega) hentries).of_suffix hu
    · exact reads_stop _ _

theorem readsAll (hroom : room.Allows most) (fuel : Nat) : ReadsAll room most fuel := by
  induction fuel with
  | zero => constructor <;> intros <;> exact reads_stop _ _
  | succ fuel ih =>
    exact ⟨fun levels _ => readValue_reads hroom ih levels,
      fun levels _ => readItems_reads ih levels,
      fun levels _ _ frozen _ => readPairs_reads ih levels frozen⟩

end

/-! ## Statements -/

section
variable {room : NestingLimit.Room} {most bound : Nat} {draft : Draft} {s : Text}

theorem readHeader_reads (left : Int) (closing : Text) (unclosed : Complaint)
    {declare : Key → Except Complaint Draft} (hmarks : marks s < bound)
    (hdeclare : ∀ key : Key, key.length ≤ bound →
      Ensures (fun _ => True) (Draft.Fits bound) (declare key)) :
    Reads (Exceeded left) s (Draft.Fits bound) (readHeader closing unclosed declare s) := by
  unfold readHeader
  have hskip := skipSpace_suffix s
  have hle := marks_le_of_suffix hskip
  refine Reads.of_suffix ?_ hskip
  refine Ensures.bind (readKey_ensures left _ (skipSpace s)) fun r hr => ?_
  obtain ⟨key, rest⟩ := r
  obtain ⟨hrest, hkey⟩ := hr
  dsimp only at hrest hkey ⊢
  refine Ensures.bind (placed_ensures left _ rest (hdeclare key (by omega))) fun draft hdraft => ?_
  split
  · rename_i hclose
    exact reads_ok (List.IsSuffix.trans ⟨_, List.append_eq_of_isPrefixOf?_eq_some hclose⟩ hrest)
      hdraft
  · exact reads_stop _ _

theorem readStatement_reads (hroom : room.Allows most) (hs : ShortRuns s) (hmarks : marks s ≤ bound)
    (hdraft : draft.Fits bound) :
    Reads (Exceeded most) s (Draft.Fits bound) (readStatement room draft s) := by
  unfold readStatement
  split
  · rename_i t
    rw [marks_cons_of_isMark rfl, marks_cons_of_isMark rfl] at hmarks
    refine Reads.of_suffix ?_ (List.suffix_append ['[', '['] t)
    exact readHeader_reads _ _ _ (by omega) fun key hkey => hdraft.settle.openItem hkey
  · rename_i t _
    rw [marks_cons_of_isMark rfl] at hmarks
    refine Reads.of_suffix ?_ (List.suffix_cons '[' t)
    exact readHeader_reads _ _ _ (by omega) fun key hkey => hdraft.settle.openTable hkey
  · exact reads_ok List.suffix_rfl hdraft
  · split
    · refine Ensures.bind (readKeyEquals_ensures _ _) fun r hr => ?_
      obtain ⟨key, rest⟩ := r
      obtain ⟨hrest, hkey⟩ := hr
      dsimp only at hrest hkey ⊢
      have hle := marks_le_of_suffix hrest
      have hvalue := (readsAll hroom (2 * rest.length + 2)).value 0 rest (hs.of_suffix hrest)
      rw [Nat.cast_zero, sub_zero] at hvalue
      refine (hvalue.of_suffix hrest).bind fun value t _ hvalue => ?_
      refine Ensures.bind (placed_ensures _ t t (hdraft.addPair hvalue (by omega)))
        fun draft hdraft => ?_
      exact reads_ok List.suffix_rfl hdraft
    · exact reads_stop _ _
  · exact reads_stop _ _

/-- Every statement leaves a document in the making that fits. -/
theorem readStatements_ensures (hroom : room.Allows most) (fuel : Nat) (hs : ShortRuns s)
    (hmarks : marks s ≤ bound) (hdraft : draft.Fits bound) :
    Ensures (fun f => f.IsLimit → most < 3 * bound) (Table.Within (4 * bound))
      (readStatements room fuel draft s) := by
  have hlimits : ∀ {t : Text} f, marks t ≤ bound → Exceeded most t f →
      f.IsLimit → most < 3 * bound := fun f hle hf hlimit => by
    have hlt := hf hlimit
    omega
  induction fuel generalizing draft s with
  | zero => exact hdraft.2
  | succ fuel ih =>
    have hskip := skipSpace_suffix s
    have hlater : ∀ {t} {draft : Draft}, t <:+ s → draft.Fits bound →
        Ensures (fun f => f.IsLimit → most < 3 * bound)
          (Table.Within (4 * bound)) (readStatements room fuel draft t) := fun ht =>
      ih (hs.of_suffix ht) ((marks_le_of_suffix ht).trans hmarks)
    rw [readStatements]
    split
    · exact hdraft.2
    · rename_i hline
      exact hlater (suffix_of_dropWhile hline) hdraft
    · have hle := (marks_le_of_suffix hskip).trans hmarks
      have hstatement := readStatement_reads hroom (hs.of_suffix hskip) hle hdraft
      refine Ensures.bind (hstatement.imp (fun f => hlimits f hle) fun _ => id) fun r hr => ?_
      obtain ⟨draft', rest⟩ := r
      obtain ⟨hrest, hdraft'⟩ := hr
      dsimp only at hrest hdraft' ⊢
      have hbehind := (skipSpace_suffix rest).trans (hrest.trans hskip)
      have hcomment := (skipComment_skips most (skipSpace rest)).of_suffix hbehind
      refine Ensures.bind (hcomment.imp (fun f => hlimits f hmarks) fun _ => id) fun t ht => ?_
      split
      · exact hdraft'.2
      · exact hlater ((List.suffix_cons _ _).trans ht) hdraft'
      · exact False.elim

end

/-- In a document with short runs of digits a limit is met only where
three levels for each mark are more than can always be open, and what is
read nests no deeper than four levels for each of them. -/
theorem read_ensures {room : NestingLimit.Room} {most : Nat} (hroom : room.Allows most)
    {document : Text} (hs : ShortRuns (lines document)) :
    Ensures (fun f => f.IsLimit → most < 3 * marks (lines document))
      (Table.Within (4 * marks (lines document))) (read room document) :=
  readStatements_ensures hroom _ hs (Nat.le_refl _) ⟨Nat.zero_le _, Table.within_nil _⟩

end MetricAudit.Toml
