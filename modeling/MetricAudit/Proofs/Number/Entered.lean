/-
MetricAudit.Proofs.Number.Entered — the numbers that people enter.

`Enters s x` says what a person may enter for the number `x`: padding at
both ends; between them, in digits of any script and with underscores
between digits, a signed numeral or a name. Exactly these texts are read
(`entered?_eq_some_iff`). Neither a numeral nor a name holds padding, so
the reader finds the ends where they are; and a name holds an `n`, which
no numeral does, so it makes no difference that names are tried first.
-/
import Mathlib.Data.Option.Basic
import MetricAudit.Proofs.Number.Grammar
import MetricAudit.Proofs.Text.Strip

namespace MetricAudit.Numeral

open Text (isAsciiDigit)

/-- A name of a number, with a sign where there is one. -/
inductive Names : Binary64 → Text → Prop
  | infinity {negative : Bool} {sign name : Text} (hsign : IsSign negative sign)
      (hname : name.map Char.toLower = "inf" ∨ name.map Char.toLower = "infinity") :
      Names (.infinity negative) (sign ++ name)
  | nan {negative : Bool} {sign name : Text} (hsign : IsSign negative sign)
      (hname : name.map Char.toLower = "nan") : Names .nan (sign ++ name)

/-- An underscore has a digit on either side. -/
def Neighbours (c d : Char) : Prop :=
  (c = '_' → isAsciiDigit d = true) ∧ (d = '_' → isAsciiDigit c = true)

/-- Each underscore of a text stands between two digits; the blanks stand
for the ends of the text. -/
def IsGrouped (s : Text) : Prop := List.IsChain Neighbours (' ' :: (s ++ [' ']))

/-- A text without its underscores. -/
def ungrouped (s : Text) : Text := s.filter (· != '_')

/-- A text enters a number. -/
def Enters (s : Text) (x : Binary64) : Prop :=
  ∃ before body after, s = before ++ (body ++ after) ∧
    (∀ c ∈ before, isPadding c = true) ∧ (∀ c ∈ after, isPadding c = true) ∧
    IsGrouped (body.map asciiDigit) ∧
    (Names x (ungrouped (body.map asciiDigit)) ∨
      ∃ n : Numeral, Writes n (ungrouped (body.map asciiDigit)) ∧ n.value = x)

/-! ## Underscores -/

theorem neighbours_underscore_iff {c : Char} :
    Neighbours c '_' ↔ isAsciiDigit c = true := by
  refine ⟨fun h => h.2 rfl, fun hc => ⟨?_, fun _ => hc⟩⟩
  rintro rfl
  cases hc

theorem neighbours_iff_of_ne {c d : Char} (hd : d ≠ '_') :
    Neighbours c d ↔ (c = '_' → isAsciiDigit d = true) :=
  ⟨fun h => h.1, fun h => ⟨h, fun heq => absurd heq hd⟩⟩

/-- Underscores are taken out of a text where each of them may stand. -/
theorem joinGroups?_eq_some_iff {previous : Char} {s t : Text} :
    joinGroups? previous s = some t ↔
      List.IsChain Neighbours (previous :: (s ++ [' '])) ∧ t = ungrouped s := by
  induction s generalizing previous t with
  | nil =>
    have hlast : Neighbours previous ' ' ↔ previous ≠ '_' :=
      (neighbours_iff_of_ne (by decide)).trans (imp_congr_right fun _ => by decide)
    rw [joinGroups?, List.nil_append, List.isChain_cons_cons, hlast]
    split <;> simp_all [ungrouped, eq_comm]
  | cons c cs ih =>
    rw [List.cons_append, List.isChain_cons_cons]
    by_cases hc : c = '_'
    · subst hc
      rw [joinGroups?, neighbours_underscore_iff]
      split
      · rename_i hdigit
        rw [ih]
        simp [hdigit, ungrouped]
      · rename_i hdigit
        simp [hdigit]
    -- only behind an underscore is anything asked of another character
    · have hkeep : ungrouped (c :: cs) = c :: ungrouped cs := by simp [ungrouped, hc]
      rw [joinGroups?.eq_3 _ _ _ hc, neighbours_iff_of_ne hc, hkeep]
      split
      · rename_i hnot
        have hdigit : isAsciiDigit c = false := by simpa using hnot.2
        simp [hnot.1, hdigit]
      · rename_i hmay
        rw [not_and, Bool.not_eq_true, Bool.not_eq_false'] at hmay
        simp only [Option.map_eq_some_iff, ih]
        constructor
        · rintro ⟨t, ⟨hchain, rfl⟩, rfl⟩
          exact ⟨⟨hmay, hchain⟩, rfl⟩
        · rintro ⟨⟨-, hchain⟩, rfl⟩
          exact ⟨_, ⟨hchain, rfl⟩, rfl⟩

/-! ## Names -/

/-- A name does not start with a sign. -/
theorem unsigned_of_name {name : Text} {c : Char} {cs : Text}
    (hname : name.map Char.toLower = c :: cs) (hminus : c ≠ '-') (hplus : c ≠ '+') :
    Unsigned name := by
  intro d hd
  obtain ⟨ds, rfl⟩ := List.head?_eq_some_iff.mp hd
  obtain ⟨hc, -⟩ := List.cons.inj hname
  constructor
  · rintro rfl
    exact hminus hc.symm
  · rintro rfl
    exact hplus hc.symm

theorem named?_eq_some_iff {s : Text} {x : Binary64} : named? s = some x ↔ Names x s := by
  constructor
  · intro h
    obtain ⟨sign, hsign, hs⟩ := exists_eq_takeSign s
    unfold named? at h
    generalize takeSign s = taken at h hsign hs
    subst hs
    dsimp only at h
    split at h
    · rename_i hname
      cases h
      exact .infinity hsign hname
    · split at h
      · rename_i hname
        cases h
        exact .nan hsign hname
      · cases h
  · intro h
    cases h with
    | infinity hsign hname =>
      have hunsigned := hname.elim (unsigned_of_name · (by decide) (by decide))
        (unsigned_of_name · (by decide) (by decide))
      rw [named?, takeSign_append hsign hunsigned]
      exact if_pos hname
    | nan hsign hname =>
      rw [named?, takeSign_append hsign (unsigned_of_name hname (by decide) (by decide))]
      dsimp only
      rw [hname]
      rfl

/-! ## Entered numbers -/

theorem isNumeralChar_of_writes {n : Numeral} {s : Text} (h : Writes n s) :
    ∀ c ∈ s, isNumeralChar c = true :=
  isNumeralChar_of_signed? (signed?_of_writes h)

theorem isPadding_of_not_isBlank {c : Char} (hc : Text.isBlank c = false) :
    isPadding c = false := by
  rw [isPadding, hc, Bool.false_and]

theorem isPadding_of_writes {n : Numeral} {s : Text} (h : Writes n s) :
    ∀ c ∈ s, isPadding c = false := fun c hc =>
  isPadding_of_not_isBlank (isBlank_of_isNumeralChar (isNumeralChar_of_writes h c hc))

theorem toLower_eq_self {c : Char} (hc : ('A' ≤ c && c ≤ 'Z') = false) : c.toLower = c :=
  dif_neg (by simpa [Char.le_def] using hc)

theorem isBlank_of_isSign {negative : Bool} {sign : Text} (h : IsSign negative sign) :
    ∀ c ∈ sign, Text.isBlank c = false := by
  have hall : sign.all (fun c => !Text.isBlank c) = true := by
    cases h <;> rfl
  simpa using hall

/-- A text holds no blank if it holds none in small letters. -/
theorem isBlank_of_map_toLower {name low : Text} (hname : name.map Char.toLower = low)
    (hlow : low.all (fun c => !Text.isBlank c) = true) : ∀ c ∈ name, Text.isBlank c = false := by
  intro c hc
  rw [← Bool.not_eq_true]
  intro hblank
  have hsame := toLower_eq_self (Text.between_of_isBlank hblank 'A' 'Z' (by decide) (by decide))
  have hmem : c ∈ low := hname ▸ List.mem_map.mpr ⟨c, hc, hsame⟩
  have hnot := List.all_eq_true.mp hlow c hmem
  rw [hblank] at hnot
  cases hnot

/-- The letters of a name are no padding, and neither is its sign. -/
theorem isPadding_of_names {x : Binary64} {s : Text} (h : Names x s) :
    ∀ c ∈ s, isPadding c = false := by
  intro c hc
  apply isPadding_of_not_isBlank
  cases h with
  | infinity hsign hname =>
    rcases List.mem_append.mp hc with hc | hc
    · exact isBlank_of_isSign hsign c hc
    · rcases hname with hname | hname
      · exact isBlank_of_map_toLower hname rfl c hc
      · exact isBlank_of_map_toLower hname rfl c hc
  | nan hsign hname =>
    rcases List.mem_append.mp hc with hc | hc
    · exact isBlank_of_isSign hsign c hc
    · exact isBlank_of_map_toLower hname rfl c hc

theorem isNumeralChar_toLower {c : Char} (hc : isNumeralChar c = true) :
    isNumeralChar c.toLower = true := by
  simp only [isNumeralChar, isDecimalChar, Bool.or_eq_true, beq_iff_eq] at hc
  rcases hc with ((((hdigit | rfl) | rfl) | rfl) | rfl) | rfl
  · have hcapital : ('A' ≤ c && c ≤ 'Z') = false := by
      simp only [isAsciiDigit, Bool.and_eq_true, Bool.and_eq_false_iff, decide_eq_true_eq,
        decide_eq_false_iff_not, Char.le_def, UInt32.le_iff_toNat_le] at hdigit ⊢
      exact Or.inl fun h => absurd (h.trans hdigit.2) (by decide)
    rw [toLower_eq_self hcapital]
    exact isNumeralChar_of_isAsciiDigit hdigit
  all_goals decide

/-- Each name holds an `n`, so it is no numeral. -/
theorem not_writes_of_names {x : Binary64} {s : Text} (h : Names x s) (n : Numeral) :
    ¬Writes n s := by
  intro hwrites
  have hletter : ∃ c ∈ s, c.toLower = 'n' := by
    have hmem : ∀ {sign name low : Text}, name.map Char.toLower = low → 'n' ∈ low →
        ∃ c ∈ sign ++ name, c.toLower = 'n' := by
      intro sign name low hname hn
      obtain ⟨c, hc, hlower⟩ := List.mem_map.mp (hname ▸ hn)
      exact ⟨c, List.mem_append_right sign hc, hlower⟩
    cases h with
    | infinity hsign hname =>
      exact hname.elim (hmem · (by decide)) (hmem · (by decide))
    | nan hsign hname => exact hmem hname (by decide)
  obtain ⟨c, hc, hlower⟩ := hletter
  have hnumeral := isNumeralChar_toLower (isNumeralChar_of_writes hwrites c hc)
  rw [hlower] at hnumeral
  cases hnumeral

/-- No digit of any script is a blank. -/
theorem isBlank_of_digitValue? {c : Char} {d : Nat} (h : Text.digitValue? c = some d) :
    Text.isBlank c = false := by
  have hall : ∀ z ∈ Text.zeroDigits, ∀ i < 10, Text.isBlank (Char.ofNat (z + i)) = false := by
    decide +kernel
  obtain ⟨z, hz, -⟩ := Option.map_eq_some_iff.mp h
  have hrange := List.find?_some hz
  simp only [Bool.and_eq_true, decide_eq_true_eq] at hrange
  have hc := hall z (List.mem_of_find?_eq_some hz) (c.toNat - z) (by omega)
  rwa [Nat.add_sub_cancel' hrange.1, Char.ofNat_toNat] at hc

/-- What has no padding once its digits are ASCII has none before. -/
theorem isPadding_of_ungrouped {s : Text}
    (h : ∀ c ∈ ungrouped (s.map asciiDigit), isPadding c = false) :
    ∀ c ∈ s, isPadding c = false := by
  intro c hc
  cases hdigit : Text.digitValue? c with
  | some d => exact isPadding_of_not_isBlank (isBlank_of_digitValue? hdigit)
  | none =>
    by_cases hscore : c = '_'
    · subst hscore
      rfl
    · have hsame : asciiDigit c = c := by simp [asciiDigit, hdigit]
      exact h c (List.mem_filter.mpr ⟨List.mem_map.mpr ⟨c, hc, hsame⟩, bne_iff_ne.mpr hscore⟩)

/-- What is left of a text between its padding is read in one way. -/
theorem entered?_append {before body after : Text} (hbefore : ∀ c ∈ before, isPadding c = true)
    (hbody : ∀ c ∈ body, isPadding c = false) (hafter : ∀ c ∈ after, isPadding c = true) :
    entered? (before ++ (body ++ after)) =
      (joinGroups? ' ' (body.map asciiDigit)).bind fun t =>
        named? t <|> (signed? t).map value := by
  unfold entered?
  dsimp only
  rw [Text.dropWhileEnd_dropWhile_append hbefore hbody hafter]
  rfl

/-- **A text is read as a number exactly if it enters it.** -/
theorem entered?_eq_some_iff {s : Text} {x : Binary64} : entered? s = some x ↔ Enters s x := by
  constructor
  · intro h
    obtain ⟨after, hafter, hs⟩ := Text.exists_eq_dropWhileEnd isPadding (s.dropWhile isPadding)
    obtain ⟨t, hjoin, hread⟩ := Option.bind_eq_some_iff.mp h
    obtain ⟨hgrouped, rfl⟩ := joinGroups?_eq_some_iff.mp hjoin
    refine ⟨s.takeWhile isPadding, _, after, ?_, fun c hc => List.mem_takeWhile_imp hc, hafter,
      hgrouped, ?_⟩
    · rw [← hs, List.takeWhile_append_dropWhile]
    · rcases (Option.orElse_eq_some _ _ _).mp hread with hname | ⟨-, hsigned⟩
      · exact Or.inl (named?_eq_some_iff.mp hname)
      · obtain ⟨n, hn, hvalue⟩ := Option.map_eq_some_iff.mp hsigned
        exact Or.inr ⟨n, writes_of_signed? hn, hvalue⟩
  · rintro ⟨before, body, after, rfl, hbefore, hafter, hgrouped, hread⟩
    have hbody : ∀ c ∈ body, isPadding c = false :=
      isPadding_of_ungrouped (hread.elim isPadding_of_names fun ⟨n, hn, _⟩ => isPadding_of_writes hn)
    rw [entered?_append hbefore hbody hafter, joinGroups?_eq_some_iff.mpr ⟨hgrouped, rfl⟩,
      Option.bind_some]
    rcases hread with hname | ⟨n, hn, rfl⟩
    · rw [named?_eq_some_iff.mpr hname]
      rfl
    -- a numeral is no name, so the first reader leaves it to the second
    · have hnone : named? (ungrouped (body.map asciiDigit)) = none :=
        Option.eq_none_iff_forall_ne_some.mpr fun y hy =>
          not_writes_of_names (named?_eq_some_iff.mp hy) n hn
      rw [hnone, signed?_of_writes hn]
      rfl

end MetricAudit.Numeral
