/-
MetricAudit.Text.ControlSequence — texts without control sequences.

A control sequence tells a terminal something, such as a color. It is the
escape character and an opening bracket, then characters from `0` to `?`,
then characters from the blank to `/`, and at its end one from `@` to
`~`. A text that does not go to a terminal is written without them.
-/
import MetricAudit.Text.Basic

namespace MetricAudit.Text

/-- What follows the escape character and the bracket in a control
sequence, up to its last character. -/
def sequenceBody (s : Text) : Text :=
  let parameters := s.takeWhile fun c => '0' ≤ c && c ≤ '?'
  let rest := s.drop parameters.length
  parameters ++ rest.takeWhile fun c => ' ' ≤ c && c ≤ '/'

/-- The length of the control sequence at the front of a text. -/
def sequenceLength? : Text → Option Nat
  | '\x1b' :: '[' :: rest =>
    let body := sequenceBody rest
    match rest[body.length]? with
    | some c => if '@' ≤ c && c ≤ '~' then some (body.length + 3) else none
    | none => none
  | _ => none

/-- A text without its control sequences, after so many characters that
belong to one. -/
def dropSequences (skip : Nat) : Text → Text
  | [] => []
  | c :: cs =>
    if 0 < skip then dropSequences (skip - 1) cs
    else
      match sequenceLength? (c :: cs) with
      | some n => dropSequences (n - 1) cs
      | none => c :: dropSequences 0 cs

/-- A text without its control sequences. -/
def withoutSequences (s : Text) : Text := dropSequences 0 s

/-- A text without an escape character has no control sequences. -/
theorem withoutSequences_of_not_mem {s : Text} (h : '\x1b' ∉ s) :
    withoutSequences s = s := by
  rw [withoutSequences]
  induction s with
  | nil => rfl
  | cons c cs ih =>
    rw [List.mem_cons, not_or] at h
    obtain ⟨front, rest⟩ := h
    have : sequenceLength? (c :: cs) = none := by
      unfold sequenceLength?
      split
      · rename_i heq; exact absurd (List.cons.inj heq).1.symm front
      · rfl
    simp [dropSequences, this, ih rest]

end MetricAudit.Text
