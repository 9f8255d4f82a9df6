/-
MetricAudit.Proofs.Text.Reading — what a reader leaves and what it may
run into.

A reader takes a piece off the front of a text, so what it leaves is a
suffix. What holds of all places of a text holds of a suffix: no run of
digits gets longer (`ShortRuns.of_suffix`), and there are no more marks
that open a further level (`marks_le_of_suffix`).

`Ensures` states of a result what holds of its value and what of its
error, and `Reads` of the result of a reader what holds of the piece and
what of the fault. Readers are followed step by step through `Reads.bind`.
-/
import MetricAudit.Text.Hexadecimal

namespace MetricAudit

/-! ## Results -/

/-- `E` holds of the error, or `P` of the value. -/
def Ensures {ε α : Type} (E : ε → Prop) (P : α → Prop) : Except ε α → Prop
  | .ok a => P a
  | .error e => E e

namespace Ensures

section
variable {ε α β : Type} {E E' : ε → Prop} {P P' : α → Prop} {Q : β → Prop} {x : Except ε α}

theorem imp (hE : ∀ e, E e → E' e) (hP : ∀ a, P a → P' a) (h : Ensures E P x) :
    Ensures E' P' x := by
  cases x with
  | ok a => exact hP a h
  | error e => exact hE e h

theorem bind {f : α → Except ε β} (hx : Ensures E P x) (hf : ∀ a, P a → Ensures E Q (f a)) :
    Ensures E Q (x >>= f) := by
  cases x with
  | ok a => exact hf a hx
  | error e => exact hx

theorem map {f : α → β} (hx : Ensures E P x) (hf : ∀ a, P a → Q (f a)) :
    Ensures E Q (f <$> x) := by
  cases x with
  | ok a => exact hf a hx
  | error e => exact hx

end

end Ensures

namespace Text

/-! ## Pieces -/

/-- Where a piece is taken off the front of a text, a suffix is left. -/
def Takes {α : Type} (s : Text) (x : Option (α × Text)) : Prop := ∀ r ∈ x, r.2 <:+ s

section
variable {α β : Type} {s t : Text} {x : Option (α × Text)}

theorem takes_none : Takes s (none : Option (α × Text)) := fun _ hr => nomatch hr

theorem takes_some {a : α} {rest : Text} (h : rest <:+ s) : Takes s (some (a, rest)) := by
  intro r hr
  obtain rfl := Option.some.inj hr
  exact h

theorem Takes.of_suffix (h : Takes t x) (hs : t <:+ s) : Takes s x :=
  fun r hr => (h r hr).trans hs

theorem Takes.bind {f : α × Text → Option (β × Text)} (hx : Takes s x)
    (hf : ∀ a rest, Takes rest (f (a, rest))) : Takes s (x >>= f) := by
  intro r hr
  obtain ⟨a, ha, hr⟩ := Option.bind_eq_some_iff.mp hr
  exact (hf a.1 a.2 r hr).trans (hx a ha)

theorem Takes.map (hx : Takes s x) (f : α → β) : Takes s (x.map fun (a, rest) => (f a, rest)) := by
  intro r hr
  obtain ⟨a, ha, rfl⟩ := Option.map_eq_some_iff.mp hr
  exact hx a ha

/-- A piece that need not be there. -/
theorem Takes.getD (h : Takes s x) : (x.map (·.2)).getD s <:+ s := by
  cases x with
  | none => exact List.suffix_rfl
  | some r => exact h r rfl

theorem Takes.getD_pair (h : Takes s x) (a : α) : (x.getD (a, s)).2 <:+ s := by
  cases x with
  | none => exact List.suffix_rfl
  | some r => exact h r rfl

end

/-! ## Readers -/

/-- What holds of a fault in a suffix of a text holds of it in the text. -/
class Rising {ε : Type} (E : Text → ε → Prop) : Prop where
  of_suffix : ∀ {s t : Text} {e : ε}, t <:+ s → E t e → E s e

/-- `P` holds of the piece that is read and a suffix is left, or `E` holds
of the fault. -/
def Reads {ε α : Type} (E : Text → ε → Prop) (s : Text) (P : α → Prop) :
    Except ε (α × Text) → Prop :=
  Ensures (E s) fun r => r.2 <:+ s ∧ P r.1

/-- Something is skipped and a suffix is left, or `E` holds of the fault. -/
def Skips {ε : Type} (E : Text → ε → Prop) (s : Text) : Except ε Text → Prop :=
  Ensures (E s) fun rest => rest <:+ s

section
variable {ε α β : Type} {E : Text → ε → Prop} {s t : Text} {P P' : α → Prop} {Q : β → Prop}
  {x : Except ε (α × Text)} {y : Except ε Text}

theorem reads_ok {a : α} {rest : Text} (hrest : rest <:+ s) (ha : P a) :
    Reads E s P (.ok (a, rest)) :=
  ⟨hrest, ha⟩

theorem Reads.mono (h : Reads E s P x) (hP : ∀ a, P a → P' a) : Reads E s P' x :=
  h.imp (fun _ => id) fun r hr => ⟨hr.1, hP r.1 hr.2⟩

theorem Reads.of_suffix [Rising E] (h : Reads E t P x) (hs : t <:+ s) : Reads E s P x :=
  h.imp (fun _ => Rising.of_suffix hs) fun _ hr => ⟨hr.1.trans hs, hr.2⟩

/-- What is read behind a piece. -/
theorem Reads.bind [Rising E] {f : α × Text → Except ε (β × Text)} (hx : Reads E s P x)
    (hf : ∀ a rest, rest <:+ s → P a → Reads E rest Q (f (a, rest))) : Reads E s Q (x >>= f) :=
  Ensures.bind hx fun r hr => (hf r.1 r.2 hr.1 hr.2).of_suffix hr.1

theorem Skips.of_suffix [Rising E] (h : Skips E t y) (hs : t <:+ s) : Skips E s y :=
  h.imp (fun _ => Rising.of_suffix hs) fun _ hrest => hrest.trans hs

/-- What is read behind what is skipped. -/
theorem Skips.bind [Rising E] {f : Text → Except ε (α × Text)} (hy : Skips E s y)
    (hf : ∀ rest, rest <:+ s → Reads E rest P (f rest)) : Reads E s P (y >>= f) :=
  Ensures.bind hy fun rest hrest => (hf rest hrest).of_suffix hrest

end

/-- What stands behind what is dropped is a suffix. -/
theorem suffix_of_dropWhile {p : Char → Bool} {s rest : Text} {c : Char}
    (h : s.dropWhile p = c :: rest) : rest <:+ s :=
  (List.suffix_cons c rest).trans (h ▸ List.dropWhile_suffix p)

/-! ## Marks and runs -/

/-- A character that opens a further level: a bracket, a brace, or the
point between the parts of a key. -/
def isMark (c : Char) : Bool := c == '[' || c == '\x7b' || c == '.'

/-- How many characters may open a level. -/
def marks (s : Text) : Nat := s.countP isMark

theorem marks_le_of_suffix {s t : Text} (h : t <:+ s) : marks t ≤ marks s :=
  h.sublist.countP_le

/-- A mark at the front is one more. -/
theorem marks_cons_of_isMark {c : Char} (hc : isMark c = true) (s : Text) :
    marks (c :: s) = marks s + 1 :=
  List.countP_cons_of_pos hc

/-- A character of a number: a digit, also a hexadecimal one, or an
underscore between digits. -/
def isRunChar (c : Char) : Bool := (hexDigit? c).isSome || c == '_'

/-- The length up to which runs of digits are no matter: so many
hexadecimal digits write an integer of no more than 4300 decimal
digits. -/
def runMost : Nat := 3571

/-- No run of digits is longer. -/
def ShortRuns (s : Text) : Prop :=
  ∀ run, run <:+: s → (∀ c ∈ run, isRunChar c = true) → run.length ≤ runMost

theorem ShortRuns.of_suffix {s t : Text} (hs : ShortRuns s) (h : t <:+ s) : ShortRuns t :=
  fun run hrun hall => hs run (hrun.trans h.isInfix) hall

/-- A run at the front is a run. -/
theorem ShortRuns.length_le {run rest : Text} (hs : ShortRuns (run ++ rest))
    (hall : ∀ c ∈ run, isRunChar c = true) : run.length ≤ runMost :=
  hs run (List.prefix_append run rest).isInfix hall

/-- A short text has short runs only. -/
theorem shortRuns_of_length_le {s : Text} (h : s.length ≤ runMost) : ShortRuns s :=
  fun _ hrun _ => Nat.le_trans hrun.length_le h

theorem isRunChar_of_isAsciiDigit {c : Char} (hc : isAsciiDigit c = true) :
    isRunChar c = true := by
  simp [isRunChar, hexDigit?, hc]

end Text
end MetricAudit
