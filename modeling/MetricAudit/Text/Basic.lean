/-
MetricAudit.Text.Basic — texts as lists of characters.

Every scanner of this library walks a text from its front, so a text is
the list of its characters: a scanner is then a recursion on a list, and
each has equation lemmas. Lengths and positions count characters, and
texts are ordered by their characters' code points, first difference
first.

A string literal stands for its characters, so `"min" ++ rest` is a
text.
-/
namespace MetricAudit

/-- A text: its characters, in order. -/
abbrev Text := List Char

/-- A string literal stands for its characters. -/
instance : Coe String Text := ⟨String.toList⟩

namespace Text

/-- The text that was entered, where an absent one reads as the empty
text. -/
def entered (t : Option Text) : Text := t.getD []

/-- A natural number in decimal digits. -/
def ofNat (n : Nat) : Text := Nat.toDigits 10 n

/-- An integer in decimal digits, a sign before a negative one. -/
def ofInt : Int → Text
  | .ofNat n => ofNat n
  | .negSucc n => '-' :: ofNat (n + 1)

/-- The digits of `n` in `base`, with zeros before them up to `width`. -/
def ofNatPadded (base width n : Nat) : Text :=
  let digits := Nat.toDigits base n
  List.replicate (width - digits.length) '0' ++ digits

/-- A text without the characters satisfying `p` at its end. -/
def dropWhileEnd (p : Char → Bool) : Text → Text
  | [] => []
  | c :: cs =>
    match dropWhileEnd p cs with
    | [] => if p c then [] else [c]
    | d :: ds => c :: d :: ds

/-- Dropping from the end is dropping from the front of the reverse. -/
theorem reverse_dropWhileEnd (p : Char → Bool) (s : Text) :
    (dropWhileEnd p s).reverse = s.reverse.dropWhile p := by
  induction s with
  | nil => rfl
  | cons c cs ih =>
    rw [List.reverse_cons, List.dropWhile_append, ← ih, dropWhileEnd]
    cases h : dropWhileEnd p cs with
    | nil => cases hc : p c <;> simp [hc]
    | cons d ds => simp

/-- Whether `part` occurs in a text. -/
def hasPart (part : Text) : Text → Bool
  | [] => part.isEmpty
  | c :: cs => part.isPrefixOf (c :: cs) || hasPart part cs

/-- The texts of a list, with `separator` between neighbours. -/
def join (separator : Text) (parts : List Text) : Text :=
  List.intercalate separator parts

/-- What stands in a joined text stands in a separator or in a part. -/
theorem mem_join {c : Char} {separator : Text} {parts : List Text}
    (hc : c ∈ join separator parts) : c ∈ separator ∨ ∃ part ∈ parts, c ∈ part := by
  induction parts with
  | nil => cases hc
  | cons part parts ih =>
    cases parts with
    | nil =>
      rw [join, List.intercalate_singleton] at hc
      exact Or.inr ⟨part, List.mem_singleton_self part, hc⟩
    | cons next parts =>
      rw [join, List.intercalate_cons_cons, List.append_assoc] at hc
      rcases List.mem_append.mp hc with hc | hc
      · exact Or.inr ⟨part, List.mem_cons_self, hc⟩
      · rcases List.mem_append.mp hc with hc | hc
        · exact Or.inl hc
        · refine (ih hc).imp_right ?_
          rintro ⟨p, hp, hc⟩
          exact ⟨p, List.mem_cons_of_mem part hp, hc⟩

/-! ## Sorted lists of distinct texts -/

/-- Put a text in its place in a sorted list, once. -/
def insertDistinct (x : Text) : List Text → List Text
  | [] => [x]
  | y :: ys =>
    if x < y then x :: y :: ys
    else if x = y then y :: ys
    else y :: insertDistinct x ys

/-- The distinct texts of a list in code-point order. -/
def sortedDistinct (xs : List Text) : List Text :=
  xs.foldr insertDistinct []

theorem mem_insertDistinct {x y : Text} {xs : List Text} :
    y ∈ insertDistinct x xs ↔ y = x ∨ y ∈ xs := by
  induction xs with
  | nil => grind [insertDistinct]
  | cons z zs ih => grind [insertDistinct]

/-- Nothing is lost or added. -/
theorem mem_sortedDistinct {y : Text} {xs : List Text} :
    y ∈ sortedDistinct xs ↔ y ∈ xs := by
  induction xs with
  | nil => rfl
  | cons x xs ih =>
    rw [sortedDistinct, List.foldr_cons, mem_insertDistinct, List.mem_cons]
    exact or_congr_right ih

/-- Of two different texts one comes before the other. -/
theorem lt_of_not_lt {x y : Text} (before : ¬x < y) (ne : x ≠ y) : y < x :=
  Decidable.byContradiction fun h =>
    ne (List.le_antisymm (List.not_lt.1 h) (List.not_lt.1 before))

theorem pairwise_insertDistinct {x : Text} {xs : List Text}
    (sorted : xs.Pairwise (· < ·)) : (insertDistinct x xs).Pairwise (· < ·) := by
  induction xs with
  | nil => exact List.pairwise_singleton _ _
  | cons y ys ih =>
    obtain ⟨least, rest⟩ := List.pairwise_cons.1 sorted
    rw [insertDistinct]
    split
    · rename_i h
      refine List.pairwise_cons.2 ⟨fun z hz => ?_, sorted⟩
      rcases List.mem_cons.1 hz with rfl | hz
      · exact h
      · exact List.lt_trans h (least z hz)
    · split
      · exact sorted
      · rename_i before ne
        refine List.pairwise_cons.2 ⟨fun z hz => ?_, ih rest⟩
        rcases mem_insertDistinct.1 hz with rfl | hz
        · exact lt_of_not_lt before ne
        · exact least z hz

/-- The result ascends, so it holds no text twice. -/
theorem pairwise_sortedDistinct (xs : List Text) :
    (sortedDistinct xs).Pairwise (· < ·) := by
  induction xs with
  | nil => exact List.Pairwise.nil
  | cons x xs ih => exact pairwise_insertDistinct ih

/-- The texts of a list in code-point order, repetitions kept. -/
def sorted (xs : List Text) : List Text :=
  xs.mergeSort fun x y => !decide (y < x)

end Text
end MetricAudit
