/-
MetricAudit.Rendering.Wrap — texts on lines of a given width.

A text is broken between words. A word takes the blanks after it along,
but has to fit only without them; blanks that hang over the end of a line
are dropped. A word that is longer than a line starts a line and is cut.
-/
import MetricAudit.Text.Blank

namespace MetricAudit.Rendering.Wrap

/-- The words of a text, each with the blanks after it; the first one
also with those before it. -/
def words (s : Text) : List Text :=
  match _h : s.dropWhile Text.isBlank with
  | [] => []
  | c :: cs =>
    let rest := cs.dropWhile (!Text.isBlank ·)
    (s.takeWhile Text.isBlank ++ c :: cs.takeWhile (!Text.isBlank ·)
        ++ rest.takeWhile Text.isBlank)
      :: words (rest.dropWhile Text.isBlank)
termination_by s.length
decreasing_by
  have front := (List.dropWhile_sublist (l := s) Text.isBlank).length_le
  rw [_h, List.length_cons] at front
  have middle := (List.dropWhile_sublist (l := cs) (!Text.isBlank ·)).length_le
  have after := (List.dropWhile_sublist (l := cs.dropWhile (!Text.isBlank ·))
    Text.isBlank).length_le
  omega

/-- A text in pieces of `n + 1` characters. -/
def chop (n : Nat) : Text → List Text
  | [] => []
  | c :: cs => (c :: cs.take n) :: chop n (cs.drop n)
termination_by s => s.length
decreasing_by simp only [List.length_drop, List.length_cons]; omega

/-- The pieces put together give the text back. -/
theorem flatten_chop (n : Nat) (s : Text) : (chop n s).flatten = s := by
  fun_induction chop n s with
  | case1 => rfl
  | case2 c cs ih => rw [List.flatten_cons, ih, List.cons_append, List.take_append_drop]

/-- Put words on lines, after what the first line holds. -/
def fill (width : Nat) (line : Text) : List Text → List Text
  | [] => [line]
  | word :: words =>
    let length := (Text.stripEnd word).length
    if length ≤ width - line.length then fill width (line ++ word) words
    else if length ≤ width then line :: fill width word words
    else
      let before := if line.isEmpty then [] else [line]
      let parts := chop (width - 1) word
      before ++ parts.dropLast ++ fill width (parts.getLastD []) words

/-- A line without the blanks that hang over its end. -/
def trim (width : Nat) (line : Text) : Text :=
  line.take (max width (Text.stripEnd line).length)

/-- A text on lines. -/
def lines (width : Nat) (s : Text) : List Text :=
  match words s with
  | [] => [trim width s]
  | words => (fill width [] words).map (trim width)

end MetricAudit.Rendering.Wrap
