/-
MetricAudit.Number.Binary64 — double-precision numbers, exactly.

A finite number is held as a sign, a significand and an exponent: its
magnitude is `significand * 2 ^ exponent` units, a unit being the least
positive double, 2^-1074. The representation is canonical, so two
finite numbers are equal as structures exactly when they have the same
sign and the same magnitude.

* `ofRatio` rounds a quotient of natural numbers to the nearest double,
  a tie to the even significand, and to an infinity past the largest.
* `div` is the correctly rounded quotient of two doubles.
* `equals` is numeric equality: the zeros are equal, `nan` equals
  nothing.

All of it is arithmetic on natural numbers.
-/
import MetricAudit.Text.Basic

namespace MetricAudit

/-- The significands and exponents of finite doubles: a significand has
53 bits, with the top bit set unless the exponent is least. -/
def Binary64.Canonical (significand exponent : Nat) : Prop :=
  significand < Nat.pow 2 53 ∧ (Nat.pow 2 52 ≤ significand ∨ exponent = 0) ∧ exponent ≤ 2045

instance (significand exponent : Nat) :
    Decidable (Binary64.Canonical significand exponent) :=
  inferInstanceAs (Decidable (_ ∧ _ ∧ _))

/-- A double-precision number. -/
inductive Binary64 where
  | nan
  | infinity (negative : Bool)
  | finite (negative : Bool) (significand exponent : Nat)
      (canonical : Binary64.Canonical significand exponent)
  deriving DecidableEq

namespace Binary64

/-- How many binary places a unit has. -/
def unitPlaces : Nat := 1074

/-- Zero, with a sign. -/
def zero (negative : Bool) : Binary64 := .finite negative 0 0 (by decide)

/-- The number one. -/
def one : Binary64 := .finite false (Nat.pow 2 52) 1022 (by decide)

instance : Inhabited Binary64 := ⟨zero false⟩

/-- A number that is neither infinite nor `nan`. -/
def isFinite : Binary64 → Bool
  | .finite .. => true
  | _ => false

def isNaN : Binary64 → Bool
  | .nan => true
  | _ => false

/-- Zero of either sign. -/
def isZero : Binary64 → Bool
  | .finite _ m _ _ => m == 0
  | _ => false

/-- The sign; `nan` has none and counts as positive. -/
def isNegative : Binary64 → Bool
  | .nan => false
  | .infinity s => s
  | .finite s _ _ _ => s

/-- Numeric equality. -/
def equals : Binary64 → Binary64 → Bool
  | .finite s m k _, .finite t n j _ =>
    m == n && k == j && (s == t || m == 0)
  | .infinity s, .infinity t => s == t
  | _, _ => false

/-! ## Rounding -/

/-- The natural number nearest to `a / b`, the even one of two. -/
def roundDiv (a b : Nat) : Nat :=
  let q := a / b
  let r := a % b
  if 2 * r < b then q
  else if b < 2 * r then q + 1
  else q + q % 2

/-- The exponent of the doubles about `a / b` units: the least at which
the whole part of the quotient has at most 53 bits. -/
def exponentFor (a b : Nat) : Nat := (a / b).log2 - 52

/-- The number with this significand and exponent; past the largest
double, infinity. -/
def pack (negative : Bool) (significand exponent : Nat) : Binary64 :=
  if h : Canonical significand exponent then
    .finite negative significand exponent h
  else .infinity negative

/-- The double nearest to `a / b` units. A significand that is rounded
up to 54 bits is the least of the next exponent. -/
def ofUnits (negative : Bool) (a b : Nat) : Binary64 :=
  let k := exponentFor a b
  let m := roundDiv a (b * Nat.pow 2 k)
  if m < Nat.pow 2 53 then pack negative m k else pack negative (Nat.pow 2 52) (k + 1)

/-- The double nearest to `a / b`. -/
def ofRatio (negative : Bool) (a b : Nat) : Binary64 :=
  ofUnits negative (a * Nat.pow 2 unitPlaces) b

/-- The double nearest to an integer, where it is in range. -/
def ofInt? (n : Int) : Option Binary64 :=
  let x := ofRatio (decide (n < 0)) n.natAbs 1
  if x.isFinite then some x else none

/-- Zero or one. -/
def ofBool (b : Bool) : Binary64 := if b then one else zero false

/-- The correctly rounded quotient. Division by zero is infinite, and
`nan` for zero over zero. -/
def div (x y : Binary64) : Binary64 :=
  let s := x.isNegative != y.isNegative
  match x, y with
  | .nan, _ => .nan
  | _, .nan => .nan
  | .infinity _, .infinity _ => .nan
  | .infinity _, .finite .. => .infinity s
  | .finite .., .infinity _ => zero s
  | .finite _ m k _, .finite _ n j _ =>
    if n = 0 then (if m = 0 then .nan else .infinity s)
    else ofRatio s (m * Nat.pow 2 k) (n * Nat.pow 2 j)

/-! ## Whole numbers -/

/-- The magnitude of a finite number in units. -/
def units : Binary64 → Nat
  | .finite _ m k _ => m * Nat.pow 2 k
  | _ => 0

/-- The integer that a finite number equals, where it is whole. -/
def toInt? : Binary64 → Option Int
  | .finite s m k _ =>
    let units := m * Nat.pow 2 k
    if units % Nat.pow 2 unitPlaces = 0 then
      let n := units / Nat.pow 2 unitPlaces
      some (if s then -(n : Int) else n)
    else none
  | _ => none

end Binary64
end MetricAudit
