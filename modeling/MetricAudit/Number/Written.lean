/-
MetricAudit.Number.Written — doubles as text.

A number is written by its significant digits, trailing zeros dropped,
in a layout: in place while the decimal exponent of the first digit lies
in a range, and with an exponent outside it. Three forms are used:

* `shown`: the shortest digits that read back, in place from 10^-4 up
  to 10^16, a whole number with `.0`;
* `plain`: a whole number by its exact integer digits, any other as
  shown;
* `sixDigits`: at most six significant digits, in place from 10^-4 up
  to 10^6.
-/
import MetricAudit.Number.Decimal

namespace MetricAudit

/-- Where digits are written in place, and whether a whole number keeps
its point. -/
structure Layout where
  /-- The least decimal exponent that is written in place. -/
  inPlaceFrom : Int
  /-- The least decimal exponent after that which is not. -/
  inPlaceBelow : Int
  /-- Whether a whole number written in place ends with `.0`. -/
  keepsPoint : Bool

namespace Layout

/-- Digits with an exponent of two digits or more. -/
def scientific (digits : Text) (scale : Int) : Text :=
  let mantissa : Text := match digits with
    | [] => "0"
    | [d] => [d]
    | d :: ds => d :: '.' :: ds
  let sign : Char := if scale < 0 then '-' else '+'
  mantissa ++ 'e' :: sign :: Text.ofNatPadded 10 2 scale.natAbs

/-- Digits with the point where it belongs, the first digit having the
decimal exponent `scale`. -/
def inPlace (keepsPoint : Bool) (digits : Text) (scale : Int) : Text :=
  match scale with
  | .negSucc zeros => "0." ++ List.replicate zeros '0' ++ digits
  | .ofNat n =>
    let whole := n + 1
    let padded := digits ++ List.replicate (whole - digits.length) '0'
    match padded.drop whole with
    | [] => if keepsPoint then padded ++ ".0" else padded
    | fraction => padded.take whole ++ '.' :: fraction

/-- A decimal in this layout. -/
def write (l : Layout) (d : Decimal) : Text :=
  if d.coefficient = 0 then inPlace l.keepsPoint "0" 0
  else
    let digits := Text.dropWhileEnd (· == '0') d.digits
    if l.inPlaceFrom ≤ d.scale ∧ d.scale < l.inPlaceBelow then
      inPlace l.keepsPoint digits d.scale
    else scientific digits d.scale

/-- The layout of shown numbers. -/
def shown : Layout := ⟨-4, 16, true⟩

/-- The layout of numbers of six digits. -/
def sixDigits : Layout := ⟨-4, 6, false⟩

end Layout

namespace Binary64

/-- A text with the sign of a number. -/
def signed (negative : Bool) (s : Text) : Text :=
  if negative then '-' :: s else s

/-- A number in a layout, with the digits that `select` gives for its
magnitude. -/
def write (l : Layout) (select : Binary64 → Decimal) : Binary64 → Text
  | .nan => "nan"
  | .infinity s => signed s "inf"
  | .finite s m k h => signed s (l.write (select (.finite s m k h)))

/-- The shortest text that reads back as the number. -/
def shown (x : Binary64) : Text := write .shown Decimal.shortest x

/-- Exact integer digits for a whole number of any size, otherwise the
number as shown. Negative zero is `0`. -/
def plain (x : Binary64) : Text :=
  match x.toInt? with
  | some n => Text.ofInt n
  | none => x.shown

/-- A number in at most six significant digits. -/
def sixDigits (x : Binary64) : Text :=
  write .sixDigits (fun y => (Decimal.exact y).rounded 6) x

end Binary64
end MetricAudit
