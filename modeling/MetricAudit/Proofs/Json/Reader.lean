/-
MetricAudit.Proofs.Json.Reader — how far the JSON reader gets.

The reader meets two limits: an integer of too many digits, and data
that nest too deep. Both are in the text (`read_ensures`): a text whose
runs of digits are short and that has no more marks than levels may be
open meets neither, and is read or refused with a complaint.

What is read nests no deeper than the text has marks, and its integers
can be shown.
-/
import MetricAudit.Json.Reader
import MetricAudit.Proofs.Data.Extent
import MetricAudit.Proofs.Number.Digits
import MetricAudit.Proofs.Number.Numeral
import MetricAudit.Proofs.Text.Reading

namespace MetricAudit.Json

open Text (Reads ShortRuns Takes isAsciiDigit marks reads_ok suffix_of_dropWhile takes_none
  takes_some)

/-- A limit is met, rather than a complaint made. -/
def Fault.IsLimit : Fault → Prop
  | .misplaced .. => False
  | .tooManyDigits _ => True
  | .tooDeep _ => True

/-- A limit is met in a text only if a run of digits in it is long, or
more levels are opened than are left. Fewer than none are left where too
many are open already. -/
def Exceeded (left : Int) (s : Text) (f : Fault) : Prop :=
  f.IsLimit → ¬ShortRuns s ∨ left < marks s

instance (left : Int) : Text.Rising (Exceeded left) where
  of_suffix hs h hlimit := by
    rcases h hlimit with hruns | hleft
    · exact Or.inl fun hshort => hruns (hshort.of_suffix hs)
    · exact Or.inr (hleft.trans_le (by exact_mod_cast Text.marks_le_of_suffix hs))

section
variable {α : Type} {left : Int} {c : Char} {s : Text} {P : α → Prop}

/-- A complaint meets no limit. -/
theorem exceeded_misplaced (complaint : Complaint) (rest : Text) :
    Exceeded left s (.misplaced complaint rest) :=
  False.elim

theorem reads_stop (complaint : Complaint) (rest : Text) :
    Reads (Exceeded left) s P (stop complaint rest) :=
  exceeded_misplaced complaint rest

/-- Behind a mark there is a level less, and a mark less. -/
theorem reads_of_mark {x : Except Fault (α × Text)} (hc : Text.isMark c = true)
    (h : Reads (Exceeded (left - 1)) s P x) : Reads (Exceeded left) (c :: s) P x := by
  refine h.imp (fun f hf hlimit => ?_) fun r hr => ⟨hr.1.trans (List.suffix_cons c s), hr.2⟩
  rcases hf hlimit with hruns | hleft
  · exact Or.inl fun hshort => hruns (hshort.of_suffix (List.suffix_cons c s))
  · rw [Text.marks_cons_of_isMark hc]
    exact Or.inr (by omega)

/-- There is room for every value with at most so many levels around it,
and for none where the number is negative. -/
def HasRoom (room : NestingLimit.Room) (most : Int) : Prop :=
  ∀ (levels : Nat) s, (levels : Int) ≤ most → room levels s = true

/-- There is no room for a value only where too many levels are open. -/
theorem reads_tooDeep {room : NestingLimit.Room} {most : Int} {levels : Nat}
    (hroom : HasRoom room most) (h : ¬room levels s = true) (task : NestingLimit.Task) :
    Reads (Exceeded (most - levels)) s P (.error (.tooDeep task)) := by
  have hlevels : most < levels := lt_of_not_ge fun hle => h (hroom levels s hle)
  exact fun _ => Or.inr (by omega)

end

/-! ## Strings -/

theorem readEscape_ensures (left : Int) (s t : Text) :
    Ensures (Exceeded left t) (fun _ => True) (readEscape s) := by
  unfold readEscape
  split
  · exact exceeded_misplaced _ _
  · split
    · exact exceeded_misplaced _ _
    · split
      · split
        · exact exceeded_misplaced _ _
        · split <;> trivial
      · trivial
  · split
    · trivial
    · exact exceeded_misplaced _ _

theorem readString_reads (left : Int) (opening : Text) (skip : Nat) (s : Text) :
    Reads (Exceeded left) s (fun _ => True) (readString opening skip s) := by
  induction s generalizing skip with
  | nil => cases skip <;> exact reads_stop _ _
  | cons c s ih =>
    have hlater : ∀ skip, Reads (Exceeded left) (c :: s) (fun _ => True)
        (readString opening skip s) :=
      fun skip => (ih skip).of_suffix (List.suffix_cons c s)
    cases skip with
    | succ skip => exact hlater skip
    | zero =>
      rw [readString]
      split
      · exact reads_ok (List.suffix_cons c s) trivial
      · split
        · split
          · exact reads_stop _ _
          · refine (readEscape_ensures left s (c :: s)).bind fun r _ => ?_
            exact Ensures.bind (hlater r.2) fun _ hr => hr
        · split
          · exact reads_stop _ _
          · exact (hlater 0).bind fun _ rest _ _ => reads_ok List.suffix_rfl trivial

/-! ## Numbers -/

/-- The whole part of a number is digits at the front of a text. -/
theorem takeWhole?_eq_some {s whole rest : Text} (h : takeWhole? s = some (whole, rest)) :
    s = whole ++ rest ∧ whole ≠ [] ∧ ∀ c ∈ whole, isAsciiDigit c = true := by
  unfold takeWhole? at h
  split at h
  · obtain ⟨rfl, rfl⟩ := Prod.mk.inj (Option.some.inj h)
    exact ⟨rfl, by simp, List.forall_mem_singleton.mpr rfl⟩
  · rename_i c cs _
    split at h
    · rename_i hc
      rw [List.span_eq_takeWhile_dropWhile] at h
      obtain ⟨rfl, rfl⟩ := Prod.mk.inj (Option.some.inj h)
      refine ⟨List.takeWhile_append_dropWhile.symm, ?_, fun d hd => List.mem_takeWhile_imp hd⟩
      rw [List.takeWhile_cons_of_pos hc]
      exact List.cons_ne_nil _ _
    · cases h
  · cases h

theorem takeFraction?_takes (s : Text) : Takes s (takeFraction? s) := by
  unfold takeFraction?
  split
  · split
    · rw [List.span_eq_takeWhile_dropWhile]
      exact takes_some ((List.dropWhile_suffix _).trans (List.suffix_cons _ _))
    · exact takes_none
  · exact takes_none

theorem takeExponent?_takes (s : Text) : Takes s (takeExponent? s) := by
  unfold takeExponent?
  split
  · rename_i e t
    split
    · refine Takes.of_suffix ?_ ((Numeral.takeSign_suffix t).trans (List.suffix_cons e t))
      dsimp only
      rw [List.span_eq_takeWhile_dropWhile]
      split
      · exact takes_none
      · rename_i heq
        obtain ⟨-, rfl⟩ := Prod.mk.inj heq
        exact takes_some (List.dropWhile_suffix _)
    · exact takes_none
  · exact takes_none

theorem readNumber_reads (left : Int) (s : Text) :
    Reads (Exceeded left) s (Data.Within 0) (readNumber s) := by
  unfold readNumber
  split
  rename_i negative t hsign
  have ht : t <:+ s := by
    split at hsign <;> obtain ⟨-, rfl⟩ := Prod.mk.inj hsign
    · exact List.suffix_cons _ _
    · exact List.suffix_rfl
  split
  · exact reads_stop _ _
  · rename_i whole t' hwhole
    obtain ⟨rfl, hne, hdigits⟩ := takeWhole?_eq_some hwhole
    have hrest : ((takeExponent? (((takeFraction? t').map (·.2)).getD t')).map (·.2)).getD
        (((takeFraction? t').map (·.2)).getD t') <:+ s :=
      (takeExponent?_takes _).getD.trans
        ((takeFraction?_takes t').getD.trans ((List.suffix_append whole t').trans ht))
    dsimp only
    split
    · split
      · rename_i hmost
        refine fun _ => Or.inl fun hshort => ?_
        have hrun := (hshort.of_suffix ht).length_le fun c hc =>
          Text.isRunChar_of_isAsciiDigit (hdigits c hc)
        have hle : Text.runMost ≤ DigitLimit.most := by decide
        omega
      · rename_i hmost
        refine reads_ok hrest (Data.within_integer ?_ 0)
        have hvalue : Text.natOfDigits whole < 10 ^ DigitLimit.most :=
          (Text.natOfDigits_lt_pow hdigits).trans_le
            (Nat.pow_le_pow_right (by decide) (not_lt.mp hmost))
        cases negative <;> simpa using hvalue
    · exact reads_ok hrest (Data.within_of_leaf rfl rfl 0)

/-! ## Values -/

theorem readWord?_eq_some {s : Text} {r : Data × Text} (h : readWord? s = some r) :
    r.2 <:+ s ∧ r.1.Within 0 := by
  obtain ⟨word, hword, hread⟩ := List.exists_of_findSome?_eq_some h
  obtain ⟨rest, hrest, rfl⟩ := Option.map_eq_some_iff.mp hread
  refine ⟨⟨word.1, List.append_eq_of_isPrefixOf?_eq_some hrest⟩, ?_⟩
  have hleaf : ∀ word ∈ words, word.2.depth = 0 ∧ word.2.integerDigits = 0 := by
    simp [words, Data.depth, Data.integerDigits]
  exact Data.within_of_leaf (hleaf word hword).1 (hleaf word hword).2 0

theorem skipSpace_suffix (s : Text) : skipSpace s <:+ s := List.dropWhile_suffix _

section
variable (room : NestingLimit.Room) (most : Int)

/-- What is read in so many steps, where `most` levels can be open. -/
structure ReadsAll (fuel : Nat) : Prop where
  value : ∀ (levels : Nat) s, Reads (Exceeded (most - levels)) s (Data.Within (marks s))
    (readValue room fuel levels s)
  items : ∀ (levels : Nat) s, Reads (Exceeded (most - levels)) s
    (fun items => ∀ d ∈ items, d.Within (marks s)) (readItems room fuel levels s)
  entries : ∀ (levels bound : Nat) entries s, marks s ≤ bound → entries.Within bound →
    Reads (Exceeded (most - levels)) s (Table.Within bound)
      (readEntries room fuel levels entries s)

end

section
variable {room : NestingLimit.Room} {most : Int} {fuel : Nat}

/-- What stands between brackets has a level less, and a mark less. -/
theorem readValue_reads (hroom : HasRoom room most) (h : ReadsAll room most fuel) (levels : Nat)
    (s : Text) :
    Reads (Exceeded (most - levels)) s (Data.Within (marks s))
      (readValue room (fuel + 1) levels s) := by
  have hnext : most - levels - 1 = most - (levels + 1 : Nat) := by omega
  unfold readValue
  split
  · split
    · rename_i t _
      refine ((readString_reads _ _ 0 t).of_suffix (List.suffix_cons _ t)).bind
        fun string rest _ _ => ?_
      exact reads_ok List.suffix_rfl (Data.within_of_leaf rfl rfl _)
    · rename_i t _
      rw [Text.marks_cons_of_isMark rfl]
      split
      · rename_i rest hrest
        refine reads_ok ?_ (Data.within_list_iff.mpr fun d hd => by cases hd)
        exact (suffix_of_dropWhile hrest).trans (List.suffix_cons _ t)
      · have hitems := (h.items (levels + 1) _).of_suffix (skipSpace_suffix t)
        refine (reads_of_mark rfl (hnext ▸ hitems)).bind fun items rest _ hitems => ?_
        refine reads_ok List.suffix_rfl (Data.within_list_iff.mpr fun d hd => ?_)
        exact (hitems d hd).mono (Text.marks_le_of_suffix (skipSpace_suffix t))
    · rename_i t _
      rw [Text.marks_cons_of_isMark rfl]
      split
      · rename_i rest hrest
        refine reads_ok ?_ (Data.within_table_iff.mpr (Table.within_nil _))
        exact (suffix_of_dropWhile hrest).trans (List.suffix_cons _ t)
      · have hle := Text.marks_le_of_suffix (skipSpace_suffix t)
        have hentries := (h.entries (levels + 1) (marks t) [] (skipSpace t) hle
          (Table.within_nil _)).of_suffix (skipSpace_suffix t)
        refine (reads_of_mark rfl (hnext ▸ hentries)).bind fun entries rest _ hentries => ?_
        exact reads_ok List.suffix_rfl (Data.within_table_iff.mpr hentries)
    · split
      · rename_i word hword
        obtain ⟨hrest, hvalue⟩ := readWord?_eq_some hword
        exact reads_ok hrest (hvalue.mono (Nat.zero_le _))
      · exact (readNumber_reads _ _).mono fun _ hvalue => hvalue.mono (Nat.zero_le _)
  · rename_i hfull
    exact reads_tooDeep hroom hfull _

theorem readItems_reads (h : ReadsAll room most fuel) (levels : Nat) (s : Text) :
    Reads (Exceeded (most - levels)) s (fun items => ∀ d ∈ items, d.Within (marks s))
      (readItems room (fuel + 1) levels s) := by
  rw [readItems]
  refine (h.value levels s).bind fun item rest hrest hitem => ?_
  dsimp only
  split
  · rename_i t hclose
    exact reads_ok (suffix_of_dropWhile hclose) (List.forall_mem_singleton.mpr hitem)
  · rename_i t hcomma
    have hmore := (skipSpace_suffix t).trans (suffix_of_dropWhile hcomma)
    have hle := Text.marks_le_of_suffix (hmore.trans hrest)
    refine ((h.items levels (skipSpace t)).of_suffix hmore).bind fun items rest _ hitems => ?_
    refine reads_ok List.suffix_rfl (List.forall_mem_cons.mpr ⟨hitem, fun d hd => ?_⟩)
    exact (hitems d hd).mono hle
  · exact reads_stop _ _

theorem readEntries_reads (h : ReadsAll room most fuel) (levels : Nat) {bound : Nat}
    {entries : Table} (s : Text) (hbound : marks s ≤ bound) (hentries : entries.Within bound) :
    Reads (Exceeded (most - levels)) s (Table.Within bound)
      (readEntries room (fuel + 1) levels entries s) := by
  unfold readEntries
  split
  · rename_i t
    refine ((readString_reads _ _ 0 t).of_suffix (List.suffix_cons _ t)).bind
      fun name rest hname _ => ?_
    dsimp only
    split
    · rename_i u hcolon
      have hu := (skipSpace_suffix u).trans (suffix_of_dropWhile hcolon)
      have hle := (Text.marks_le_of_suffix (hu.trans hname)).trans hbound
      refine ((h.value levels (skipSpace u)).of_suffix hu).bind fun value rest hrest hvalue => ?_
      have hset := hentries.set name (hvalue.mono hle)
      dsimp only
      split
      · rename_i hclose
        exact reads_ok (suffix_of_dropWhile hclose) hset
      · rename_i v hcomma
        have hv := (skipSpace_suffix v).trans (suffix_of_dropWhile hcomma)
        have hmore := (Text.marks_le_of_suffix (hv.trans (hrest.trans hname))).trans hbound
        exact (h.entries levels bound _ _ hmore hset).of_suffix hv
      · exact reads_stop _ _
    · exact reads_stop _ _
  · exact reads_stop _ _

/-- Values, items and entries are read as far as levels can be open. -/
theorem readsAll (hroom : HasRoom room most) (fuel : Nat) : ReadsAll room most fuel := by
  induction fuel with
  | zero => constructor <;> intros <;> exact reads_stop _ _
  | succ fuel ih =>
    exact ⟨readValue_reads hroom ih, readItems_reads ih,
      fun levels _ _ s hbound hentries => readEntries_reads ih levels s hbound hentries⟩

/-- What is read from a text nests no deeper than the text has marks, and
its integers can be shown. Where so many levels can be open, a limit is
met only in a text with a long run of digits or with more marks. -/
theorem read_ensures (hroom : HasRoom room most) (s : Text) :
    Ensures (Exceeded most s) (Data.Within (marks s)) (read room s) := by
  unfold read
  split
  · exact exceeded_misplaced _ _
  · have hvalue := (readsAll hroom (2 * s.length + 2)).value 0 (skipSpace s)
    rw [Nat.cast_zero, sub_zero] at hvalue
    refine Ensures.bind (hvalue.of_suffix (skipSpace_suffix s)) fun r hr => ?_
    dsimp only
    split
    · exact hr.2.mono (Text.marks_le_of_suffix (skipSpace_suffix s))
    · exact exceeded_misplaced _ _

end

/-- What is read is within the marks of the text, whatever room there
is. -/
theorem within_of_read {room : NestingLimit.Room} {s : Text} {d : Data}
    (h : read room s = .ok d) : d.Within (marks s) := by
  have hnone : HasRoom room (-1) := fun levels _ hlevels => absurd hlevels (by omega)
  have hread := read_ensures hnone s
  rwa [h] at hread

/-- A limit is met only in a text with a long run of digits, or with more
marks than levels that can be open. -/
theorem not_isLimit_of_read {room : NestingLimit.Room} {levels : Nat}
    (hroom : room.Allows levels) {s : Text} (hruns : ShortRuns s) (hmarks : marks s ≤ levels)
    {f : Fault} (h : read room s = .error f) : ¬f.IsLimit := by
  intro hlimit
  have hroom' : HasRoom room levels := fun n s hn => hroom n s (by omega)
  have hread := read_ensures hroom' s
  rw [h] at hread
  rcases hread hlimit with hlong | hlt
  · exact hlong hruns
  · omega

/-- An integer alone meets the limit of digits, where there is room for
it. -/
theorem read_digits {room : NestingLimit.Room} {digits : Text}
    (hroom : room 0 ('1' :: digits) = true)
    (hdigits : ∀ c ∈ digits, isAsciiDigit c = true) (hlong : DigitLimit.most ≤ digits.length) :
    read room ('1' :: digits) = .error (.tooManyDigits (digits.length + 1)) := by
  have hwhole : takeWhole? ('1' :: digits) = some ('1' :: digits, []) := by
    have hall : ∀ c ∈ '1' :: digits, isAsciiDigit c = true :=
      List.forall_mem_cons.mpr ⟨rfl, hdigits⟩
    rw [takeWhole?, if_pos (hall '1' List.mem_cons_self), List.span_eq_takeWhile_dropWhile,
      List.takeWhile_eq_self_iff.mpr hall, List.dropWhile_eq_nil_iff.mpr hall]
    simp
  have hnumber : readNumber ('1' :: digits) = .error (.tooManyDigits (digits.length + 1)) := by
    have hlt : DigitLimit.most < digits.length + 1 := Nat.lt_succ_of_le hlong
    simp [readNumber, hwhole, takeFraction?, takeExponent?, hlt]
  have hvalue : ∀ fuel, readValue room (fuel + 1) 0 ('1' :: digits) =
      .error (.tooManyDigits (digits.length + 1)) := by
    intro fuel
    rw [readValue, if_pos hroom]
    · exact hnumber
    all_goals simp
  rw [read]
  · change (readValue _ _ _ ('1' :: digits) >>= _) = _
    rw [hvalue]
    rfl
  · simp

end MetricAudit.Json
