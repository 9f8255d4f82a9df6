/-
MetricAudit.Number.Decimal — decimal numbers, and their doubles.

A decimal is a natural number times a power of ten. `toBinary64` rounds
it to the nearest double. In the other direction every finite double is
a decimal (`exact`), and `shortest` is the decimal of fewest digits that
rounds to it, the nearest of those.
-/
import MetricAudit.Number.Binary64

namespace MetricAudit

/-- The number `coefficient * 10 ^ exponent`. -/
structure Decimal where
  coefficient : Nat
  exponent : Int
  deriving DecidableEq, Repr

namespace Decimal

/-- The digits of the coefficient. -/
def digits (d : Decimal) : Text := Text.ofNat d.coefficient

/-- The decimal exponent of the first digit. -/
def scale (d : Decimal) : Int := d.digits.length - 1 + d.exponent

/-- The double nearest to a decimal. A decimal from 10^310 on exceeds
every double, and one below 10^-330 is nearer to zero than to the least
positive double; both are decided without the power of ten. -/
def toBinary64 (negative : Bool) (d : Decimal) : Binary64 :=
  if d.coefficient = 0 then .zero negative
  else if 310 ≤ d.scale then .infinity negative
  else if d.scale < -330 then .zero negative
  else
    match d.exponent with
    | .ofNat n => .ofRatio negative (d.coefficient * Nat.pow 10 n) 1
    | .negSucc n => .ofRatio negative d.coefficient (Nat.pow 10 (n + 1))

/-- The decimal that a number of units equals: a unit is 5^1074 over
10^1074. -/
def ofUnits (units : Nat) : Decimal :=
  ⟨units * Nat.pow 5 Binary64.unitPlaces, -(Binary64.unitPlaces : Int)⟩

/-- The decimal that the magnitude of a finite double equals. -/
def exact (x : Binary64) : Decimal := ofUnits x.units

/-- The two decimals of `n` digits next to `d`, the nearer one first, and
of two equally near the even one; `d` itself is one of them where it has
no more digits. -/
def neighbours (d : Decimal) (n : Nat) : List Decimal :=
  let dropped := d.digits.length - n
  let step := Nat.pow 10 dropped
  let below := d.coefficient / step
  let lower : Decimal := ⟨below, d.exponent + dropped⟩
  let upper : Decimal := ⟨below + 1, d.exponent + dropped⟩
  if Binary64.roundDiv d.coefficient step = below then [lower, upper]
  else [upper, lower]

/-- Whether a decimal rounds to the magnitude of a double. -/
def readsBackAs (x : Binary64) (d : Decimal) : Bool :=
  match x with
  | .finite _ m k h => d.toBinary64 false = .finite false m k h
  | _ => false

/-- The decimal of fewest digits that rounds to the magnitude of a
finite double, the nearest of those. Up to seventeen digits are tried,
and then the exact value is taken. -/
def shortest (x : Binary64) : Decimal :=
  let d := exact x
  let candidates := (List.range 17).flatMap fun n => neighbours d (n + 1)
  (candidates.find? (readsBackAs x)).getD d

/-- The decimal of at most `n` digits nearest to `d`, a tie to the even
one. -/
def rounded (d : Decimal) (n : Nat) : Decimal :=
  let dropped := d.digits.length - n
  ⟨Binary64.roundDiv d.coefficient (Nat.pow 10 dropped), d.exponent + dropped⟩

end Decimal
end MetricAudit
