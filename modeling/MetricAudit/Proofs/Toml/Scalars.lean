/-
MetricAudit.Proofs.Toml.Scalars — what the readers of strings, numbers
and moments leave.

Each of them leaves a suffix of the text and none of them meets a limit,
in a text whose runs of digits are short: there decimal integers are not
too long to be read, and hexadecimal ones not too long to be shown
(`readScalar_reads`).
-/
import MetricAudit.Proofs.Data.Extent
import MetricAudit.Proofs.Number.Numeral
import MetricAudit.Proofs.Text.Reading
import MetricAudit.Toml.Reader

namespace MetricAudit.Toml

open Text (Reads ShortRuns Takes isAsciiDigit marks reads_ok takes_none takes_some)

/-- A limit is met, rather than a complaint made. -/
def Fault.IsLimit : Fault → Prop
  | .misplaced .. => False
  | .tooManyDigits _ => True
  | .tooDeep _ => True

/-- A limit is met in a text only if the marks in it, at three levels
each, are more than the levels that are left. Fewer than none are left
where too many are open already. -/
def Exceeded (left : Int) (s : Text) (f : Fault) : Prop :=
  f.IsLimit → left < 3 * marks s

instance (left : Int) : Text.Rising (Exceeded left) where
  of_suffix hs h hlimit := by
    have hlt := h hlimit
    have hle := Text.marks_le_of_suffix hs
    omega

/-- A complaint meets no limit. -/
theorem exceeded_misplaced {left : Int} {s : Text} (complaint : Complaint) (rest : Text) :
    Exceeded left s (.misplaced complaint rest) :=
  False.elim

theorem reads_stop {α : Type} {left : Int} {s : Text} {P : α → Prop} (complaint : Complaint)
    (rest : Text) : Reads (Exceeded left) s P (stop complaint rest) :=
  exceeded_misplaced complaint rest

section
variable (left : Int)

/-! ## Strings -/

theorem readCode_ensures (count : Nat) (s t : Text) :
    Ensures (Exceeded left t) (fun _ => True) (readCode count s) := by
  unfold readCode
  dsimp only
  split
  · split
    · trivial
    · exact exceeded_misplaced _ _
  · exact exceeded_misplaced _ _

theorem readEscape_ensures (multiline : Bool) (s t : Text) :
    Ensures (Exceeded left t) (fun _ => True) (readEscape multiline s) := by
  unfold readEscape
  split
  · exact exceeded_misplaced _ _
  · split
    · split
      · trivial
      · trivial
      · exact exceeded_misplaced _ _
    · split
      · exact (readCode_ensures left 4 _ t).map fun _ _ => trivial
      · split
        · exact (readCode_ensures left 8 _ t).map fun _ _ => trivial
        · split
          · trivial
          · exact exceeded_misplaced _ _

theorem readBasic_reads (multiline : Bool) (skip : Nat) (s : Text) :
    Reads (Exceeded left) s (fun _ => True) (readBasic multiline skip s) := by
  induction s generalizing skip with
  | nil => cases skip <;> exact reads_stop _ _
  | cons c s ih =>
    have hlater : ∀ skip, Reads (Exceeded left) (c :: s) (fun _ => True)
        (readBasic multiline skip s) :=
      fun skip => (ih skip).of_suffix (List.suffix_cons c s)
    cases skip with
    | succ skip => exact hlater skip
    | zero =>
      rw [readBasic]
      split
      · split
        · exact reads_ok (List.suffix_cons c s) trivial
        · split
          · rename_i rest hrest
            have hsuffix : rest <:+ s := ⟨_, List.append_eq_of_isPrefixOf?_eq_some hrest⟩
            exact reads_ok (hsuffix.trans (List.suffix_cons c s)) trivial
          · exact (hlater 0).bind fun _ rest _ _ => reads_ok List.suffix_rfl trivial
      · split
        · refine (readEscape_ensures left multiline s (c :: s)).bind fun r _ => ?_
          exact Ensures.bind (hlater r.2) fun _ hr => hr
        · split
          · exact reads_stop _ _
          · exact (hlater 0).bind fun _ rest _ _ => reads_ok List.suffix_rfl trivial

theorem cutAt?_suffix {mark s before rest : Text} (h : cutAt? mark s = some (before, rest)) :
    rest <:+ s := by
  induction s generalizing before with
  | nil => cases h
  | cons c s ih =>
    rw [cutAt?] at h
    split at h
    · rename_i rest' hrest
      obtain ⟨-, rfl⟩ := Prod.mk.inj (Option.some.inj h)
      exact ⟨_, List.append_eq_of_isPrefixOf?_eq_some hrest⟩
    · obtain ⟨r, hr, heq⟩ := Option.map_eq_some_iff.mp h
      obtain ⟨-, rfl⟩ := Prod.mk.inj heq
      exact (ih hr).trans (List.suffix_cons c s)

theorem readLiteral_reads (multiline : Bool) (s : Text) :
    Reads (Exceeded left) s (fun _ => True) (readLiteral multiline s) := by
  unfold readLiteral
  dsimp only
  split
  · exact reads_stop _ _
  · rename_i hcut
    split
    · exact reads_stop _ _
    · exact reads_ok (cutAt?_suffix hcut) trivial

theorem takeExtraMarks_suffix (mark : Char) (s : Text) : (takeExtraMarks mark s).2 <:+ s := by
  unfold takeExtraMarks
  split
  · split
    · split
      · exact ⟨[_, _], rfl⟩
      · exact List.suffix_cons _ _
    · exact List.suffix_rfl
  · split
    · exact List.nil_suffix
    · exact List.suffix_rfl
  · exact List.suffix_rfl

theorem readMultiline_reads (mark : Char) {read : Text → Except Fault (Text × Text)}
    (hread : ∀ s, Reads (Exceeded left) s (fun _ => True) (read s)) (s : Text) :
    Reads (Exceeded left) s (fun _ => True) (readMultiline mark read s) := by
  unfold readMultiline
  refine ((hread _).of_suffix ?_).bind fun string rest _ _ =>
    reads_ok (takeExtraMarks_suffix mark rest) trivial
  split
  · exact List.suffix_cons _ _
  · exact List.suffix_rfl

theorem readLineString?_reads {s : Text} {x : Except Fault (Text × Text)}
    (h : readLineString? s = some x) : Reads (Exceeded left) s (fun _ => True) x := by
  unfold readLineString? at h
  split at h
  · obtain rfl := Option.some.inj h
    exact (readBasic_reads left false 0 _).of_suffix (List.suffix_cons _ _)
  · obtain rfl := Option.some.inj h
    exact (readLiteral_reads left false _).of_suffix (List.suffix_cons _ _)
  · cases h

theorem readString?_reads {s : Text} {x : Except Fault (Text × Text)}
    (h : readString? s = some x) : Reads (Exceeded left) s (fun _ => True) x := by
  unfold readString? at h
  split at h
  · obtain rfl := Option.some.inj h
    exact (readMultiline_reads left _ (readBasic_reads left true 0) _).of_suffix ⟨[_, _, _], rfl⟩
  · obtain rfl := Option.some.inj h
    exact (readMultiline_reads left _ (readLiteral_reads left true) _).of_suffix ⟨[_, _, _], rfl⟩
  · exact readLineString?_reads left h

/-! ## Numbers -/

/-- Digits are taken off the front of a text together with underscores. -/
def IsGroups (isDigit : Char → Bool) (s digits rest : Text) : Prop :=
  ∃ run, s = run ++ rest ∧ (∀ c ∈ run, Text.isRunChar c = true) ∧
    digits.length ≤ run.length ∧ ∀ c ∈ digits, isDigit c = true

section
variable {isDigit : Char → Bool} {c : Char} {s digits rest : Text}

theorem IsGroups.suffix (h : IsGroups isDigit s digits rest) : rest <:+ s := by
  obtain ⟨run, rfl, -⟩ := h
  exact List.suffix_append run rest

theorem isGroups_singleton (hc : isDigit c = true) (hrun : Text.isRunChar c = true) :
    IsGroups isDigit (c :: s) [c] s :=
  ⟨[c], rfl, List.forall_mem_singleton.mpr hrun, Nat.le_refl _,
    List.forall_mem_singleton.mpr hc⟩

theorem IsGroups.cons (hc : isDigit c = true) (hrun : Text.isRunChar c = true)
    (h : IsGroups isDigit s digits rest) : IsGroups isDigit (c :: s) (c :: digits) rest := by
  obtain ⟨run, rfl, hall, hlength, hdigits⟩ := h
  exact ⟨c :: run, rfl, List.forall_mem_cons.mpr ⟨hrun, hall⟩,
    Nat.succ_le_succ hlength, List.forall_mem_cons.mpr ⟨hc, hdigits⟩⟩

theorem IsGroups.cons_underscore (hc : isDigit c = true) (hrun : Text.isRunChar c = true)
    (h : IsGroups isDigit s digits rest) :
    IsGroups isDigit (c :: '_' :: s) (c :: digits) rest := by
  obtain ⟨run, rfl, hall, hlength, hdigits⟩ := h
  exact ⟨c :: '_' :: run, rfl,
    List.forall_mem_cons.mpr ⟨hrun, List.forall_mem_cons.mpr ⟨rfl, hall⟩⟩,
    Nat.succ_le_succ (Nat.le_succ_of_le hlength), List.forall_mem_cons.mpr ⟨hc, hdigits⟩⟩

theorem isGroups_of_takeGroups? (hdigit : ∀ c, isDigit c = true → Text.isRunChar c = true)
    (h : takeGroups? isDigit s = some (digits, rest)) : IsGroups isDigit s digits rest := by
  fun_induction takeGroups? isDigit s generalizing digits with
  | case1 => cases h
  | case2 c hc t digits' rest' heq ih =>
    obtain ⟨rfl, rfl⟩ := Prod.mk.inj (Option.some.inj h)
    exact (ih heq).cons_underscore hc (hdigit c hc)
  | case3 c hc t hnone ih =>
    obtain ⟨rfl, rfl⟩ := Prod.mk.inj (Option.some.inj h)
    exact isGroups_singleton hc (hdigit c hc)
  | case4 c hc s hne digits' rest' heq ih =>
    obtain ⟨rfl, rfl⟩ := Prod.mk.inj (Option.some.inj h)
    exact (ih heq).cons hc (hdigit c hc)
  | case5 c hc s hne hnone ih =>
    obtain ⟨rfl, rfl⟩ := Prod.mk.inj (Option.some.inj h)
    exact isGroups_singleton hc (hdigit c hc)
  | case6 => cases h

/-- The digits of a text with short runs are not too many. -/
theorem IsGroups.length_le (h : IsGroups isDigit s digits rest) (hs : ShortRuns s) :
    digits.length ≤ Text.runMost := by
  obtain ⟨run, rfl, hall, hlength, -⟩ := h
  exact hlength.trans (hs.length_le hall)

theorem takeGroups?_takes (hdigit : ∀ c, isDigit c = true → Text.isRunChar c = true)
    (s : Text) : Takes s (takeGroups? isDigit s) :=
  fun (_, _) hr => (isGroups_of_takeGroups? hdigit hr).suffix

end

/-- A run of digits in a base writes a number of that order. -/
theorem numberIn_lt_pow {base : Nat} {digits : Text}
    (h : ∀ c ∈ digits, isDigitIn base c = true) : numberIn base digits < base ^ digits.length := by
  induction digits using List.reverseRecOn with
  | nil => exact Nat.one_pos
  | append_singleton digits c ih =>
    have hinit := ih fun d hd => h d (List.mem_append_left _ hd)
    have hc : (Text.hexDigit? c).getD 0 < base := by
      have hdigit := h c (by simp)
      unfold isDigitIn at hdigit
      split at hdigit
      · rename_i hd
        rw [hd]
        exact of_decide_eq_true hdigit
      · cases hdigit
    rw [numberIn, List.foldl_append, List.length_append, List.length_singleton, Nat.pow_succ]
    calc base * numberIn base digits + (Text.hexDigit? c).getD 0
        < base * numberIn base digits + base := Nat.add_lt_add_left hc _
      _ = base * (numberIn base digits + 1) := (Nat.mul_succ _ _).symm
      _ ≤ base * base ^ digits.length := Nat.mul_le_mul_left _ hinit
      _ = base ^ digits.length * base := Nat.mul_comm _ _

theorem isRunChar_of_isDigitIn {base : Nat} {c : Char} (h : isDigitIn base c = true) :
    Text.isRunChar c = true := by
  unfold isDigitIn at h
  split at h
  · rename_i hd
    simp [Text.isRunChar, hd]
  · cases h

/-- An integer of a short run of hexadecimal digits can be shown. -/
theorem pow_runMost_le : 16 ^ Text.runMost ≤ 10 ^ DigitLimit.most := by
  decide +kernel

theorem takeBased?_eq_some {s rest : Text} {n : Nat} (hs : ShortRuns s)
    (h : takeBased? s = some (n, rest)) : rest <:+ s ∧ n < 10 ^ DigitLimit.most := by
  unfold takeBased? at h
  split at h
  · rename_i c t
    obtain ⟨base, hbase, h⟩ := Option.bind_eq_some_iff.mp h
    obtain ⟨⟨digits, rest'⟩, hgroups, h⟩ := Option.bind_eq_some_iff.mp h
    obtain ⟨rfl, rfl⟩ := Prod.mk.inj (Option.some.inj h)
    have hsuffix : t <:+ '0' :: c :: t := List.suffix_append ['0', c] t
    have hdigits := isGroups_of_takeGroups? (fun _ => isRunChar_of_isDigitIn) hgroups
    refine ⟨hdigits.suffix.trans hsuffix, ?_⟩
    have hlength := hdigits.length_le (hs.of_suffix hsuffix)
    obtain ⟨-, -, -, -, hall⟩ := hdigits
    have hle : base ≤ 16 := by
      unfold baseOf? at hbase
      split at hbase <;> simp_all <;> omega
    calc numberIn base digits
        < base ^ digits.length := numberIn_lt_pow hall
      _ ≤ 16 ^ digits.length := Nat.pow_le_pow_left hle _
      _ ≤ 16 ^ Text.runMost := Nat.pow_le_pow_right (by decide) hlength
      _ ≤ 10 ^ DigitLimit.most := pow_runMost_le
  · cases h

theorem takeFraction?_takes (s : Text) : Takes s (takeFraction? s) := by
  unfold takeFraction?
  split
  · exact (takeGroups?_takes (fun _ => Text.isRunChar_of_isAsciiDigit) _).of_suffix
      (List.suffix_cons _ _)
  · exact takes_none

theorem takeExponent?_takes (s : Text) : Takes s (takeExponent? s) := by
  unfold takeExponent?
  split
  · rename_i e t
    split
    · refine Takes.of_suffix ?_ ((Numeral.takeSign_suffix t).trans (List.suffix_cons e t))
      exact (takeGroups?_takes (fun _ => Text.isRunChar_of_isAsciiDigit) _).bind
        fun _ rest => takes_some List.suffix_rfl
    · exact takes_none
  · exact takes_none

/-- The whole part of a number is a run of digits, with underscores
between them. -/
theorem isGroups_of_takeWhole? {s whole rest : Text} (h : takeWhole? s = some (whole, rest)) :
    IsGroups isAsciiDigit s whole rest := by
  unfold takeWhole? at h
  split at h
  · obtain ⟨rfl, rfl⟩ := Prod.mk.inj (Option.some.inj h)
    exact isGroups_singleton rfl rfl
  · exact isGroups_of_takeGroups? (fun _ => Text.isRunChar_of_isAsciiDigit) h

theorem readDecimal?_reads {s : Text} {x : Except Fault (Data × Text)} (hs : ShortRuns s)
    (h : readDecimal? s = some x) : Reads (Exceeded left) s (Data.Within 0) x := by
  unfold readDecimal? at h
  obtain ⟨⟨whole, t⟩, hwhole, h⟩ := Option.bind_eq_some_iff.mp h
  have hsign := Numeral.takeSign_suffix s
  have hgroups := isGroups_of_takeWhole? hwhole
  have hlength : whole.length ≤ DigitLimit.most :=
    (hgroups.length_le (hs.of_suffix hsign)).trans (by decide)
  have hrest : ((takeExponent? (((takeFraction? t).map (·.2)).getD t)).map (·.2)).getD
      (((takeFraction? t).map (·.2)).getD t) <:+ s :=
    (takeExponent?_takes _).getD.trans
      ((takeFraction?_takes t).getD.trans (hgroups.suffix.trans hsign))
  dsimp only at h
  split at h
  · rw [if_neg (Nat.not_lt.mpr hlength)] at h
    obtain rfl := Option.some.inj h
    refine reads_ok hrest (Data.within_integer ?_ 0)
    obtain ⟨-, -, -, -, hall⟩ := hgroups
    have hvalue : Text.natOfDigits whole < 10 ^ DigitLimit.most :=
      (Text.natOfDigits_lt_pow hall).trans_le (Nat.pow_le_pow_right (by decide) hlength)
    split <;> simpa using hvalue
  · obtain rfl := Option.some.inj h
    exact reads_ok hrest (Data.within_of_leaf rfl rfl 0)

theorem readNumber?_reads {s : Text} {x : Except Fault (Data × Text)} (hs : ShortRuns s)
    (h : readNumber? s = some x) : Reads (Exceeded left) s (Data.Within 0) x := by
  unfold readNumber? at h
  split at h
  · rename_i hbased
    obtain rfl := Option.some.inj h
    obtain ⟨hrest, hvalue⟩ := takeBased?_eq_some hs hbased
    exact reads_ok hrest (Data.within_integer (Int.natAbs_natCast _ ▸ hvalue) 0)
  · exact readDecimal?_reads left hs h

theorem readSpecial?_eq_some {s : Text} {r : Data × Text} (h : readSpecial? s = some r) :
    r.2 <:+ s ∧ r.1.Within 0 := by
  unfold readSpecial? at h
  dsimp only at h
  have hsign := Numeral.takeSign_suffix s
  split at h
  · rename_i rest heq
    obtain rfl := Option.some.inj h
    rw [heq] at hsign
    exact ⟨(List.suffix_append ['i', 'n', 'f'] rest).trans hsign,
      Data.within_of_leaf rfl rfl 0⟩
  · rename_i rest heq
    obtain rfl := Option.some.inj h
    rw [heq] at hsign
    exact ⟨(List.suffix_append ['n', 'a', 'n'] rest).trans hsign,
      Data.within_of_leaf rfl rfl 0⟩
  · cases h

/-! ## Moments -/

theorem takeField?_takes (count least most : Nat) (s : Text) :
    Takes s (takeField? count least most s) := by
  unfold takeField?
  dsimp only
  split
  · exact takes_some (List.drop_suffix count s)
  · exact takes_none

/-- What is taken behind a character. -/
theorem takes_after {β : Type} {c : Char} {s : Text} {f : Text → Option (β × Text)}
    (hf : ∀ t, Takes t (f t)) : Takes s (after? c s >>= f) := by
  intro r hr
  obtain ⟨t, ht, hr⟩ := Option.bind_eq_some_iff.mp hr
  unfold after? at ht
  split at ht
  · split at ht
    · obtain rfl := Option.some.inj ht
      exact (hf _ r hr).trans (List.suffix_cons _ _)
    · cases ht
  · cases ht

theorem takeMicroseconds?_takes (s : Text) : Takes s (takeMicroseconds? s) := by
  unfold takeMicroseconds?
  refine takes_after fun t => ?_
  dsimp only
  split
  · exact takes_none
  · exact takes_some (List.dropWhile_suffix _)

theorem takeClock?_takes (s : Text) : Takes s (takeClock? s) := by
  unfold takeClock?
  exact (takeField?_takes 2 0 23 s).bind fun _ _ =>
    takes_after fun t => (takeField?_takes 2 0 59 t).bind fun _ _ =>
      takes_after fun t => (takeField?_takes 2 0 59 t).bind fun _ rest =>
        takes_some ((takeMicroseconds?_takes rest).getD_pair 0)

theorem takeDate?_takes (s : Text) : Takes s (takeDate? s) := by
  unfold takeDate?
  exact (takeField?_takes 4 0 9999 s).bind fun _ _ =>
    takes_after fun t => (takeField?_takes 2 1 12 t).bind fun _ _ =>
      takes_after fun t => (takeField?_takes 2 1 31 t).bind fun _ _ =>
        takes_some List.suffix_rfl

theorem takeSpan?_takes (s : Text) : Takes s (takeSpan? s) := by
  unfold takeSpan?
  exact (takeField?_takes 2 0 23 s).bind fun _ _ =>
    takes_after fun t => (takeField?_takes 2 0 59 t).bind fun _ _ =>
      takes_some List.suffix_rfl

theorem takeOffset?_takes (s : Text) : Takes s (takeOffset? s) := by
  unfold takeOffset?
  split
  · rename_i c t
    have ht := List.suffix_cons c t
    split
    · exact takes_some ht
    · split
      · exact ((takeSpan?_takes t).map _).of_suffix ht
      · split
        · exact ((takeSpan?_takes t).map fun n => -(n : Int)).of_suffix ht
        · exact takes_none
  · exact takes_none

theorem takeDayTime?_takes (s : Text) : Takes s (takeDayTime? s) := by
  unfold takeDayTime?
  split
  · split
    · exact (takeClock?_takes _).of_suffix (List.suffix_cons _ _)
    · exact takes_none
  · exact takes_none

theorem within_moment (m : Moment) : (Data.moment m).Within 0 :=
  Data.within_of_leaf rfl rfl 0

theorem readDated?_reads {s : Text} {x : Except Fault (Data × Text)}
    (h : readDated? s = some x) : Reads (Exceeded left) s (Data.Within 0) x := by
  unfold readDated? at h
  obtain ⟨⟨date, rest⟩, hdate, h⟩ := Option.bind_eq_some_iff.mp h
  have hrest : rest <:+ s := takeDate?_takes s _ hdate
  dsimp only at h
  split at h
  · obtain rfl := Option.some.inj h
    refine reads_ok ?_ (within_moment _)
    split
    · exact hrest
    · rename_i clock rest' hclock
      have hrest' : rest' <:+ s := (takeDayTime?_takes rest _ hclock).trans hrest
      split
      · exact hrest'
      · rename_i offset rest'' hoffset
        exact (takeOffset?_takes rest' _ hoffset).trans hrest'
  · obtain rfl := Option.some.inj h
    exact reads_stop _ _

theorem readMoment?_reads {s : Text} {x : Except Fault (Data × Text)}
    (h : readMoment? s = some x) : Reads (Exceeded left) s (Data.Within 0) x := by
  unfold readMoment? at h
  split at h
  · rename_i hread
    exact Option.some.inj h ▸ readDated?_reads left hread
  · obtain ⟨⟨clock, rest⟩, hclock, rfl⟩ := Option.map_eq_some_iff.mp h
    exact reads_ok (takeClock?_takes s _ hclock) (within_moment _)

/-! ## Values without parts -/

/-- Values without parts are read within the limits, in a text with short
runs of digits. -/
theorem readScalar_reads {s : Text} (hs : ShortRuns s) :
    Reads (Exceeded left) s (Data.Within 0) (readScalar s) := by
  unfold readScalar
  split
  · rename_i rest hrest
    exact reads_ok ⟨_, List.append_eq_of_isPrefixOf?_eq_some hrest⟩
      (Data.within_of_leaf rfl rfl 0)
  · rename_i rest hrest _
    exact reads_ok ⟨_, List.append_eq_of_isPrefixOf?_eq_some hrest⟩
      (Data.within_of_leaf rfl rfl 0)
  · split
    · rename_i hread
      cases hmoment : readMoment? s with
      | some x =>
        rw [hmoment] at hread
        exact Option.some.inj hread ▸ readMoment?_reads left hmoment
      | none =>
        rw [hmoment] at hread
        exact readNumber?_reads left hs hread
    · split
      · rename_i hspecial
        exact readSpecial?_eq_some hspecial
      · exact reads_stop _ _

end

end MetricAudit.Toml
