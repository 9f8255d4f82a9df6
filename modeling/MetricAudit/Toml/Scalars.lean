/-
MetricAudit.Toml.Scalars — the numbers and moments of TOML.

Each reader takes the longest text at the front that its grammar allows
and leaves the rest. Integers are decimal, or hexadecimal, octal or
binary behind `0x`, `0o` or `0b`; an underscore may stand between two
digits. A date may be followed by a time of day, and that by an offset
from universal time; a second has up to six decimal places, further ones
are dropped.
-/
import MetricAudit.Data.Value
import MetricAudit.Number.DigitLimit
import MetricAudit.Number.Numeral
import MetricAudit.Toml.Strings

namespace MetricAudit.Toml

open Text (isAsciiDigit natOfDigits)

/-! ## Numbers -/

/-- The digits at the front of a text without the single underscores
between them, and what follows; none where no digit stands first. -/
def takeGroups? (isDigit : Char → Bool) : Text → Option (Text × Text)
  | [] => none
  | c :: s =>
    if isDigit c then
      match s with
      | '_' :: t =>
        match takeGroups? isDigit t with
        | some (digits, rest) => some (c :: digits, rest)
        | none => some ([c], s)
      | s =>
        match takeGroups? isDigit s with
        | some (digits, rest) => some (c :: digits, rest)
        | none => some ([c], s)
    else none

/-- A digit in a base up to sixteen. -/
def isDigitIn (base : Nat) (c : Char) : Bool :=
  match Text.hexDigit? c with
  | some d => d < base
  | none => false

/-- The base that a letter after a zero announces. -/
def baseOf? : Char → Option Nat
  | 'x' => some 16
  | 'o' => some 8
  | 'b' => some 2
  | _ => none

/-- An integer in another base than ten. -/
def takeBased? : Text → Option (Nat × Text)
  | '0' :: c :: s => do
    let base ← baseOf? c
    let (digits, rest) ← takeGroups? (isDigitIn base) s
    return (numberIn base digits, rest)
  | _ => none

/-- The whole part of a decimal number. -/
def takeWhole? : Text → Option (Text × Text)
  | '0' :: s => some (['0'], s)
  | s => takeGroups? isAsciiDigit s

/-- The fraction of a number, where a point and a digit stand. -/
def takeFraction? : Text → Option (Text × Text)
  | '.' :: s => takeGroups? isAsciiDigit s
  | _ => none

/-- The exponent of a number, where its mark and a digit stand. -/
def takeExponent? : Text → Option (Int × Text)
  | e :: s =>
    if e = 'e' ∨ e = 'E' then do
      let (negative, s) := Numeral.takeSign s
      let (digits, rest) ← takeGroups? isAsciiDigit s
      let n := natOfDigits digits
      return (if negative then -(n : Int) else n, rest)
    else none
  | [] => none

/-- A decimal integer, or a number with a fraction or an exponent. -/
def readDecimal? (s : Text) : Option (Except Fault (Data × Text)) := do
  let (negative, s) := Numeral.takeSign s
  let (whole, s) ← takeWhole? s
  let fraction := takeFraction? s
  let s := (fraction.map (·.2)).getD s
  let exponent := takeExponent? s
  let s := (exponent.map (·.2)).getD s
  match fraction, exponent with
  | none, none =>
    if DigitLimit.most < whole.length then return .error (.tooManyDigits whole.length)
    else
      let n := natOfDigits whole
      return .ok (.integer (if negative then -(n : Int) else n), s)
  | _, _ =>
    let numeral : Numeral :=
      ⟨negative, whole, (fraction.map (·.1)).getD [], (exponent.map (·.1)).getD 0⟩
    return .ok (.real numeral.value, s)

/-- A number. -/
def readNumber? (s : Text) : Option (Except Fault (Data × Text)) :=
  match takeBased? s with
  | some (n, rest) => some (.ok (.integer n, rest))
  | none => readDecimal? s

/-- An infinity or `nan`. -/
def readSpecial? (s : Text) : Option (Data × Text) :=
  let (negative, t) := Numeral.takeSign s
  match t with
  | 'i' :: 'n' :: 'f' :: rest => some (.real (.infinity negative), rest)
  | 'n' :: 'a' :: 'n' :: rest => some (.real .nan, rest)
  | _ => none

/-! ## Moments -/

/-- A number of exactly `count` digits between two bounds. -/
def takeField? (count least most : Nat) (s : Text) : Option (Nat × Text) :=
  let digits := s.take count
  let n := natOfDigits digits
  if digits.length = count ∧ digits.all isAsciiDigit ∧ least ≤ n ∧ n ≤ most then
    some (n, s.drop count)
  else none

/-- What follows a character at the front of a text. -/
def after? (c : Char) : Text → Option Text
  | d :: s => if d = c then some s else none
  | [] => none

/-- The microseconds of a second's decimal places; none where no digit
follows the point. -/
def takeMicroseconds? (s : Text) : Option (Nat × Text) := do
  let s ← after? '.' s
  let digits := s.takeWhile isAsciiDigit
  if digits.isEmpty then none
  else
    let places := digits.take 6
    return (natOfDigits (places ++ List.replicate (6 - places.length) '0'),
      s.dropWhile isAsciiDigit)

/-- A time of day. -/
def takeClock? (s : Text) : Option (Clock × Text) := do
  let (hour, s) ← takeField? 2 0 23 s
  let (minute, s) ← takeField? 2 0 59 (← after? ':' s)
  let (second, s) ← takeField? 2 0 59 (← after? ':' s)
  let (microsecond, s) := (takeMicroseconds? s).getD (0, s)
  return (⟨hour, minute, second, microsecond⟩, s)

/-- A date; its day need not be one that the month has. -/
def takeDate? (s : Text) : Option (Date × Text) := do
  let (year, s) ← takeField? 4 0 9999 s
  let (month, s) ← takeField? 2 1 12 (← after? '-' s)
  let (day, s) ← takeField? 2 1 31 (← after? '-' s)
  return (⟨year, month, day⟩, s)

/-- An offset of hours and minutes. -/
def takeSpan? (s : Text) : Option (Nat × Text) := do
  let (hours, s) ← takeField? 2 0 23 s
  let (minutes, s) ← takeField? 2 0 59 (← after? ':' s)
  return (hours * 60 + minutes, s)

/-- An offset from universal time, in minutes. -/
def takeOffset? : Text → Option (Int × Text)
  | c :: s =>
    if c = 'Z' ∨ c = 'z' then some (0, s)
    else if c = '+' then (takeSpan? s).map fun (n, rest) => ((n : Int), rest)
    else if c = '-' then (takeSpan? s).map fun (n, rest) => (-(n : Int), rest)
    else none
  | [] => none

/-- The time of day after a date, behind a `T` or a space. -/
def takeDayTime? : Text → Option (Clock × Text)
  | c :: s => if c = 'T' ∨ c = 't' ∨ c = ' ' then takeClock? s else none
  | [] => none

/-- A date, alone or with a time of day. A day that the calendar does not
have is refused. -/
def readDated? (s : Text) : Option (Except Fault (Data × Text)) := do
  let (date, rest) ← takeDate? s
  let read : Moment × Text := match takeDayTime? rest with
    | none => (.date date, rest)
    | some (clock, rest) =>
      match takeOffset? rest with
      | none => (.dateTime date clock none, rest)
      | some (offset, rest) => (.dateTime date clock (some offset), rest)
  if date.isOnCalendar then return .ok (.moment read.1, read.2)
  else return stop .invalidMoment s

/-- A date or a time of day. -/
def readMoment? (s : Text) : Option (Except Fault (Data × Text)) :=
  match readDated? s with
  | some read => some read
  | none => (takeClock? s).map fun (clock, rest) => .ok (.moment (.time clock), rest)

end MetricAudit.Toml
