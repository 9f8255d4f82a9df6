/-
MetricAudit.Text.Blank — blank characters, and texts without them.

The blanks are the characters that Unicode counts as white space,
together with the four information separators U+001C to U+001F. The
zero-width characters (U+180E, U+200B, U+2060, U+FEFF) are not blank.

`strip` takes the blanks off both ends, `squeeze` takes all of them out,
`words` are the runs of other characters.
-/
import MetricAudit.Text.Basic

namespace MetricAudit.Text

/-- White space of any script. -/
def isBlank (c : Char) : Bool :=
  let n := c.toNat
  (0x09 ≤ n && n ≤ 0x0d) || (0x1c ≤ n && n ≤ 0x20) || n == 0x85 || n == 0xa0
    || n == 0x1680 || (0x2000 ≤ n && n ≤ 0x200a) || n == 0x2028 || n == 0x2029
    || n == 0x202f || n == 0x205f || n == 0x3000

/-- A text without the blanks at its end. -/
def stripEnd (s : Text) : Text := dropWhileEnd isBlank s

/-- A text without the blanks at either end. -/
def strip (s : Text) : Text := stripEnd (s.dropWhile isBlank)

/-- A text without any blank. -/
def squeeze (s : Text) : Text := s.filter fun c => !isBlank c

/-- What `squeeze` keeps is not blank. -/
theorem not_isBlank_of_mem_squeeze {c : Char} {s : Text} (h : c ∈ squeeze s) :
    isBlank c = false := by
  simpa using (List.mem_filter.1 h).2

/-- The runs of characters between blanks. -/
def words (s : Text) : List Text :=
  match _h : s.dropWhile isBlank with
  | [] => []
  | c :: cs => (c :: cs.takeWhile (!isBlank ·)) :: words (cs.dropWhile (!isBlank ·))
termination_by s.length
decreasing_by
  have front := (List.dropWhile_sublist (l := s) isBlank).length_le
  rw [_h, List.length_cons] at front
  have rest := (List.dropWhile_sublist (l := cs) (!isBlank ·)).length_le
  omega

end MetricAudit.Text
