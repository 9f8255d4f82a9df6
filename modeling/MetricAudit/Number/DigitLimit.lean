/-
MetricAudit.Number.DigitLimit — how many digits an integer may have.

An integer is neither read from more than 4300 decimal digits nor shown
in more; leading zeros count.
-/
import MetricAudit.Text.Basic

namespace MetricAudit.DigitLimit

/-- The greatest number of decimal digits of an integer. -/
def most : Nat := 4300

/-- What there is to say of an integer that is written in too many
digits. -/
def message (digits : Nat) : Text :=
  "Exceeds the limit (4300 digits) for integer string conversion: value has "
    ++ Text.ofNat digits
    ++ " digits; use sys.set_int_max_str_digits() to increase the limit"

/-- What there is to say of an integer that cannot be shown. -/
def unshownMessage : Text :=
  "Exceeds the limit (4300 digits) for integer string conversion; "
    ++ "use sys.set_int_max_str_digits() to increase the limit"

end MetricAudit.DigitLimit
