/-
MetricAudit.Proofs.Text.Strip — what stripping and squeezing do to a
text.

No printable ASCII character is a blank (`between_of_isBlank`). What is
taken off the ends of a text may be characters of another kind than
blanks; a text without any is found again between two texts of them
(`dropWhileEnd_dropWhile_append`).

A text is blanks, its stripped form, and blanks (`exists_eq_strip`), so
stripping again changes nothing (`strip_strip`) and a text that ends in
no blank has no suffix that does (`stripEnd_of_suffix`). Squeezing sees
no difference between a text and its stripped form (`squeeze_strip`).
-/
import Mathlib.Data.List.DropRight
import MetricAudit.Text.Blank
import MetricAudit.Text.DecimalDigit

namespace MetricAudit.Text

/-! ## Blank characters -/

/-- No blank lies in a range of printable ASCII characters. -/
theorem between_of_isBlank {c : Char} (hc : isBlank c = true) (first last : Char)
    (hfirst : 0x20 < first.val.toNat) (hlast : last.val.toNat < 0x85) :
    (decide (first ≤ c) && decide (c ≤ last)) = false := by
  simp only [isBlank, Bool.or_eq_true, Bool.and_eq_true, decide_eq_true_eq, beq_iff_eq] at hc
  simp only [Bool.and_eq_false_iff, decide_eq_false_iff_not, Char.le_def,
    UInt32.le_iff_toNat_le]
  have hn : c.toNat = c.val.toNat := rfl
  omega

theorem isAsciiDigit_of_isBlank {c : Char} (hc : isBlank c = true) :
    isAsciiDigit c = false :=
  between_of_isBlank hc '0' '9' (by decide) (by decide)

/-- A blank is no other character. -/
theorem beq_of_isBlank {c : Char} (hc : isBlank c = true) (d : Char)
    (hd : isBlank d = false) : (c == d) = false := by
  rw [beq_eq_false_iff_ne]
  rintro rfl
  rw [hc] at hd
  cases hd

/-- A text of blanks only. -/
def AllBlank (w : Text) : Prop := ∀ c ∈ w, isBlank c = true

theorem allBlank_takeWhile (s : Text) : AllBlank (s.takeWhile isBlank) := by
  intro c hc
  exact List.mem_takeWhile_imp hc

/-! ## Runs at the front -/

/-- A run at the front of a text ends where the next character is no part
of it. -/
theorem takeWhile_dropWhile_append {p : Char → Bool} {l r : Text} (hl : ∀ c ∈ l, p c = true)
    (hr : ∀ c ∈ r.head?, p c = false) :
    (l ++ r).takeWhile p = l ∧ (l ++ r).dropWhile p = r := by
  rw [List.takeWhile_append_of_pos hl, List.dropWhile_append_of_pos hl]
  cases r with
  | nil => simp
  | cons c cs => simp [hr c rfl]

/-- The first character goes with the run behind it. -/
theorem cons_eq_takeWhile_append (p : Char → Bool) (c : Char) (cs : Text) :
    c :: cs = (c :: cs.takeWhile p) ++ cs.dropWhile p := by
  rw [List.cons_append, List.takeWhile_append_dropWhile]

/-- What follows a run is no part of it. -/
theorem head?_dropWhile_eq_false {p : Char → Bool} {s : Text} {c : Char}
    (hc : c ∈ (s.dropWhile p).head?) : p c = false := by
  have hnot := List.head?_dropWhile_not p s
  rw [Option.mem_def.mp hc] at hnot
  exact hnot

/-! ## The end of a text -/

theorem dropWhileEnd_eq (p : Char → Bool) (s : Text) : dropWhileEnd p s = s.rdropWhile p := by
  rw [List.rdropWhile, ← reverse_dropWhileEnd, List.reverse_reverse]

theorem stripEnd_eq (s : Text) : stripEnd s = s.rdropWhile isBlank :=
  dropWhileEnd_eq isBlank s

/-- A text is what is kept of it and what is dropped from its end. -/
theorem exists_eq_dropWhileEnd (p : Char → Bool) (s : Text) :
    ∃ w, (∀ c ∈ w, p c = true) ∧ s = dropWhileEnd p s ++ w := by
  refine ⟨s.rtakeWhile p, fun c hc => List.mem_rtakeWhile_imp hc, ?_⟩
  rw [dropWhileEnd_eq, List.rdropWhile_append_rtakeWhile]

/-- What has no such character is found again between two texts of them. -/
theorem dropWhileEnd_dropWhile_append {p : Char → Bool} {l s r : Text}
    (hl : ∀ c ∈ l, p c = true) (hs : ∀ c ∈ s, p c = false) (hr : ∀ c ∈ r, p c = true) :
    dropWhileEnd p ((l ++ (s ++ r)).dropWhile p) = s := by
  have hfront : (s ++ r).dropWhile p = s ++ r ∨ s = [] := by
    cases s with
    | nil => exact Or.inr rfl
    | cons c cs =>
      have hc := hs c List.mem_cons_self
      exact Or.inl (List.dropWhile_cons_of_neg (by simp [hc]))
  rw [List.dropWhile_append_of_pos hl]
  rcases hfront with hfront | rfl
  · have hend : ∀ c ∈ r.reverse, p c = true := fun c hc => hr c (List.mem_reverse.mp hc)
    rw [hfront, dropWhileEnd_eq, List.rdropWhile, List.reverse_append,
      List.dropWhile_append_of_pos hend, ← List.rdropWhile, List.rdropWhile_eq_self_iff]
    intro hne
    simp [hs _ (List.getLast_mem hne)]
  · rw [List.nil_append, List.dropWhile_eq_nil_iff.mpr hr]
    rfl

/-- A text is its form without blanks at the end, and blanks. -/
theorem exists_eq_stripEnd (s : Text) : ∃ w, AllBlank w ∧ s = stripEnd s ++ w :=
  exists_eq_dropWhileEnd isBlank s

theorem stripEnd_append {s w : Text} (hw : AllBlank w) :
    stripEnd (s ++ w) = stripEnd s := by
  have hrev : ∀ c ∈ w.reverse, isBlank c = true := by
    intro c hc
    exact hw c (List.mem_reverse.mp hc)
  simp only [stripEnd_eq, List.rdropWhile, List.reverse_append]
  rw [List.dropWhile_append_of_pos hrev]

theorem stripEnd_concat (s : Text) {c : Char} (hc : isBlank c = false) :
    stripEnd (s ++ [c]) = s ++ [c] := by
  rw [stripEnd_eq, List.rdropWhile_concat_neg _ _ _ (by simp [hc])]

theorem stripEnd_stripEnd (s : Text) : stripEnd (stripEnd s) = stripEnd s := by
  simp only [stripEnd_eq, List.rdropWhile_idempotent]

/-- What ends a text without blanks at its end has none there either. -/
theorem stripEnd_of_suffix {s t : Text} (hs : stripEnd s = s) (ht : t <:+ s) :
    stripEnd t = t := by
  obtain ⟨u, rfl⟩ := ht
  rcases List.eq_nil_or_concat t with rfl | ⟨t', c, rfl⟩
  · rfl
  · cases hc : isBlank c with
    | false => simpa using stripEnd_concat t' hc
    | true =>
      have hw : AllBlank [c] := by simpa [AllBlank] using hc
      rw [List.concat_eq_append, ← List.append_assoc, stripEnd_append hw] at hs
      have hle := (List.rdropWhile_prefix isBlank (u ++ t')).length_le
      rw [← stripEnd_eq, hs, List.length_append, List.length_singleton] at hle
      omega

/-! ## Both ends -/

/-- Dropping the blanks in front keeps the end as it is. -/
theorem stripEnd_strip (s : Text) : stripEnd (strip s) = strip s :=
  stripEnd_stripEnd _

/-- No blank starts a stripped text. -/
theorem dropWhile_strip (s : Text) : (strip s).dropWhile isBlank = strip s := by
  obtain ⟨w, _, hs⟩ := exists_eq_stripEnd (s.dropWhile isBlank)
  change s.dropWhile isBlank = strip s ++ w at hs
  cases h : strip s with
  | nil => rfl
  | cons c cs =>
    have hhead := List.head?_dropWhile_not isBlank s
    rw [hs, h] at hhead
    exact List.dropWhile_cons_of_neg (by simpa using hhead)

theorem strip_strip (s : Text) : strip (strip s) = strip s := by
  rw [strip, dropWhile_strip, stripEnd_strip]

theorem ne_nil_of_strip_ne_nil {s : Text} (h : strip s ≠ []) : s ≠ [] := by
  rintro rfl
  exact h rfl

/-- A text is blanks, its stripped form, and blanks. -/
theorem exists_eq_strip (s : Text) :
    ∃ l r, AllBlank l ∧ AllBlank r ∧ s = l ++ strip s ++ r := by
  obtain ⟨r, hr, hs⟩ := exists_eq_stripEnd (s.dropWhile isBlank)
  refine ⟨s.takeWhile isBlank, r, allBlank_takeWhile s, hr, ?_⟩
  rw [strip, List.append_assoc, ← hs, List.takeWhile_append_dropWhile]

/-- The end of a stripped text needs stripping at its front only. -/
theorem strip_of_suffix {s t : Text} (hs : stripEnd s = s) (ht : t <:+ s) :
    strip t = t.dropWhile isBlank :=
  stripEnd_of_suffix hs ((List.dropWhile_suffix _).trans ht)

theorem strip_of_not_blank {s : Text} (h : ∀ c ∈ s, isBlank c = false) : strip s = s := by
  have hnil : ∀ c ∈ ([] : Text), isBlank c = true := fun c hc => nomatch hc
  simpa [strip, stripEnd] using dropWhileEnd_dropWhile_append hnil h hnil

/-! ## Squeezing -/

theorem squeeze_append (s t : Text) : squeeze (s ++ t) = squeeze s ++ squeeze t :=
  List.filter_append ..

theorem squeeze_of_allBlank {w : Text} (hw : AllBlank w) : squeeze w = [] := by
  simpa [squeeze, AllBlank] using hw

theorem squeeze_dropWhile (s : Text) : squeeze (s.dropWhile isBlank) = squeeze s := by
  conv => rhs; rw [← List.takeWhile_append_dropWhile (p := isBlank) (l := s)]
  rw [squeeze_append, squeeze_of_allBlank (allBlank_takeWhile s), List.nil_append]

theorem squeeze_stripEnd (s : Text) : squeeze (stripEnd s) = squeeze s := by
  obtain ⟨w, hw, hs⟩ := exists_eq_stripEnd s
  conv => rhs; rw [hs]
  rw [squeeze_append, squeeze_of_allBlank hw, List.append_nil]

theorem squeeze_strip (s : Text) : squeeze (strip s) = squeeze s := by
  rw [strip, squeeze_stripEnd, squeeze_dropWhile]

theorem squeeze_of_not_blank {s : Text} (h : ∀ c ∈ s, isBlank c = false) : squeeze s = s :=
  List.filter_eq_self.mpr fun c hc => by rw [h c hc]; rfl

/-- A character of a text is blank, or it is squeezed out of it unharmed. -/
theorem mem_squeeze_of_mem {c : Char} {s : Text} (hc : c ∈ s) :
    isBlank c = true ∨ c ∈ squeeze s := by
  cases hb : isBlank c with
  | true => exact Or.inl rfl
  | false => exact Or.inr (List.mem_filter.mpr ⟨hc, by simp [hb]⟩)

/-- A text is blank where nothing but blanks is left of it. -/
theorem strip_eq_nil_iff {s : Text} : strip s = [] ↔ squeeze s = [] := by
  rw [← squeeze_strip]
  constructor
  · intro h
    rw [h]
    rfl
  · intro h
    have hall : ∀ c ∈ strip s, isBlank c = true := by simpa [squeeze] using h
    rw [← dropWhile_strip, List.dropWhile_eq_nil_iff.mpr hall]

theorem isEmpty_strip (s : Text) : (strip s).isEmpty = (squeeze s).isEmpty := by
  rw [Bool.eq_iff_iff, List.isEmpty_iff, List.isEmpty_iff, strip_eq_nil_iff]

theorem any_squeeze {p : Char → Bool} (hp : ∀ c, isBlank c = true → p c = false) (s : Text) :
    (squeeze s).any p = s.any p := by
  rw [squeeze, List.any_filter]
  congr 1
  funext c
  cases hc : isBlank c with
  | true => simp [hp c hc]
  | false => simp

/-- What is not blank is counted without the blanks. -/
theorem count_strip (c : Char) (hc : isBlank c = false) (s : Text) :
    (strip s).count c = (squeeze s).count c := by
  rw [← squeeze_strip, squeeze, List.count_filter (by simp [hc])]

theorem contains_strip (c : Char) (hc : isBlank c = false) (s : Text) :
    (strip s).contains c = (squeeze s).contains c := by
  rw [Bool.eq_iff_iff, List.contains_iff_mem, List.contains_iff_mem, ← List.count_pos_iff,
    ← List.count_pos_iff, count_strip c hc]

theorem any_strip {p : Char → Bool} (hp : ∀ c, isBlank c = true → p c = false) (s : Text) :
    (strip s).any p = (squeeze s).any p := by
  rw [← squeeze_strip, any_squeeze hp]

end MetricAudit.Text
