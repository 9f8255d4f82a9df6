/-
MetricAudit.Text.Hexadecimal — hexadecimal digits.
-/
import MetricAudit.Text.DecimalDigit

namespace MetricAudit.Text

/-- The value of a hexadecimal digit, in either case. -/
def hexDigit? (c : Char) : Option Nat :=
  if isAsciiDigit c then some (asciiDigitValue c)
  else if 'a' ≤ c ∧ c ≤ 'f' then some (c.toNat - 'a'.toNat + 10)
  else if 'A' ≤ c ∧ c ≤ 'F' then some (c.toNat - 'A'.toNat + 10)
  else none

/-- The number that hexadecimal digits write. -/
def hexNumber? (s : Text) : Option Nat :=
  s.foldl (fun n c => n.bind fun n => (hexDigit? c).map (16 * n + ·)) (some 0)

/-- A number in at least four hexadecimal digits, in capital letters, as
code points are written. -/
def codePoint (n : Nat) : Text := (ofNatPadded 16 4 n).map Char.toUpper

end MetricAudit.Text
