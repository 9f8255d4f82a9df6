/-
MetricAudit.Number.Numeral — reading decimal numerals.

Two grammars of ASCII numerals:

* `unsigned?`: digits with an optional fractional part, `10` or `2.5`;
* `signed?`: an optional sign, digits around an optional point with at
  least one digit on either side, and an optional exponent.

`entered?` reads a number as a person enters it: blanks around it,
digits of any script, single underscores between digits, and the names
of the infinities and of `nan` are accepted besides `signed?` numerals.
Every reader gives the double nearest to what is written.
-/
import MetricAudit.Number.Decimal
import MetricAudit.Text.Blank
import MetricAudit.Text.DecimalDigit

namespace MetricAudit

/-- The parts of a decimal numeral. -/
structure Numeral where
  negative : Bool
  whole : Text
  fraction : Text
  exponent : Int
  deriving DecidableEq, Repr

namespace Numeral

open Text (isAsciiDigit natOfDigits)

/-- The decimal that the digits and the exponent write. -/
def decimal (n : Numeral) : Decimal :=
  ⟨natOfDigits (n.whole ++ n.fraction), n.exponent - n.fraction.length⟩

/-- The nearest double. -/
def value (n : Numeral) : Binary64 := n.decimal.toBinary64 n.negative

/-- An optional sign, whether it is a minus, and what follows. -/
def takeSign : Text → Bool × Text
  | '-' :: s => (true, s)
  | '+' :: s => (false, s)
  | s => (false, s)

/-- A run of digits and what follows it. -/
def takeDigits (s : Text) : Text × Text := s.span isAsciiDigit

/-- Digits with an optional fractional part. -/
def unsigned? (s : Text) : Option Numeral :=
  let (whole, rest) := takeDigits s
  if whole.isEmpty then none
  else
    match rest with
    | [] => some ⟨false, whole, [], 0⟩
    | '.' :: rest =>
      let (fraction, rest) := takeDigits rest
      if fraction.isEmpty || !rest.isEmpty then none
      else some ⟨false, whole, fraction, 0⟩
    | _ => none

/-- The exponent that ends a numeral; nothing is exponent zero. -/
def exponent? : Text → Option Int
  | [] => some 0
  | e :: s =>
    if e = 'e' ∨ e = 'E' then
      let (negative, s) := takeSign s
      let (digits, rest) := takeDigits s
      if digits.isEmpty || !rest.isEmpty then none
      else
        let n := natOfDigits digits
        some (if negative then -(n : Int) else n)
    else none

/-- The fraction after a point, where there is one. -/
def takeFraction : Text → Text × Text
  | '.' :: s => takeDigits s
  | s => ([], s)

/-- Sign, digits, point and exponent. -/
def signed? (s : Text) : Option Numeral :=
  let (negative, s) := takeSign s
  let (whole, s) := takeDigits s
  let (fraction, s) := takeFraction s
  if whole.isEmpty && fraction.isEmpty then none
  else (exponent? s).map (⟨negative, whole, fraction, ·⟩)

/-! ## Numbers as people enter them -/

/-- A blank around an entered number. The information separators are
not. -/
def isPadding (c : Char) : Bool :=
  Text.isBlank c && !(0x1c ≤ c.toNat && c.toNat ≤ 0x1f)

/-- A digit of any script as an ASCII digit; other characters as they
are. -/
def asciiDigit (c : Char) : Char :=
  match Text.digitValue? c with
  | some d => Nat.digitChar d
  | none => c

/-- A text without the underscores that each stand between two digits;
none where one stands elsewhere. `previous` is the character before. -/
def joinGroups? (previous : Char) : Text → Option Text
  | [] => if previous = '_' then none else some []
  | '_' :: cs => if isAsciiDigit previous then joinGroups? '_' cs else none
  | c :: cs =>
    if previous = '_' ∧ !isAsciiDigit c then none
    else (joinGroups? c cs).map (c :: ·)

/-- The numbers that have names, in letters of either case. -/
def named? (s : Text) : Option Binary64 :=
  let (negative, s) := takeSign s
  let name := s.map Char.toLower
  if name = "inf" ∨ name = "infinity" then some (.infinity negative)
  else if name = "nan" then some .nan
  else none

/-- An entered number. -/
def entered? (s : Text) : Option Binary64 := do
  let s := Text.dropWhileEnd isPadding (s.dropWhile isPadding)
  let s ← joinGroups? ' ' (s.map asciiDigit)
  named? s <|> (signed? s).map value

end Numeral
end MetricAudit
