/-
MetricAudit.Text.Utf8 — strict decoding of UTF-8.

`decode` reads a byte sequence as UTF-8 and stops at the first fault: a
byte that starts no character, a byte that does not continue the
character begun before it, or an end of data inside a character. A fault
names the bytes it concerns: the start byte alone, the well-formed part
of a character that goes wrong, or all that is left when the data ends
too early.
-/
import MetricAudit.Text.Basic

namespace MetricAudit.Text.Utf8

/-- Why bytes are not UTF-8. -/
inductive Reason where
  | invalidStart
  | invalidContinuation
  | unexpectedEnd
  deriving DecidableEq, Repr

/-- The bytes `bytes`, from position `start` on, cannot be decoded. -/
structure Fault where
  reason : Reason
  start : Nat
  bytes : List UInt8
  deriving DecidableEq, Repr

/-- The lowest and the highest byte that may come second in a character
starting with `first`, and how many bytes follow the first; none where
`first` starts no character of several bytes. -/
def shape? (first : Nat) : Option (Nat × Nat × Nat) :=
  if 0xc2 ≤ first ∧ first ≤ 0xdf then some (0x80, 0xbf, 1)
  else if first = 0xe0 then some (0xa0, 0xbf, 2)
  else if first = 0xed then some (0x80, 0x9f, 2)
  else if 0xe1 ≤ first ∧ first ≤ 0xef then some (0x80, 0xbf, 2)
  else if first = 0xf0 then some (0x90, 0xbf, 3)
  else if first = 0xf4 then some (0x80, 0x8f, 3)
  else if 0xf1 ≤ first ∧ first ≤ 0xf3 then some (0x80, 0xbf, 3)
  else none

/-- What the bytes after a start byte give: the code point, how the
character goes wrong after `seen` bytes of it, or that the data ends. -/
inductive Tail where
  | complete (code : Nat)
  | broken (seen : Nat)
  | cut

/-- Read `count` bytes of a character of which `seen` bytes make up
`code`; the next byte lies between `low` and `high`, and those after it
between 80 and BF. -/
def readTail (low high code seen : Nat) : Nat → List UInt8 → Tail
  | 0, _ => .complete code
  | _ + 1, [] => .cut
  | count + 1, b :: bs =>
    if low ≤ b.toNat ∧ b.toNat ≤ high then
      readTail 0x80 0xbf (code * 64 + (b.toNat - 0x80)) (seen + 1) count bs
    else .broken seen

/-- The bits of a start byte that belong to the code point, when `count`
bytes follow it. -/
def leadBits (first count : Nat) : Nat := first % Nat.pow 2 (6 - count)

/-- Decode the bytes from position `at_` on. `skip` bytes at the front
belong to a character that is already decoded. -/
def decodeFrom (at_ : Nat) : Nat → List UInt8 → Except Fault Text
  | _, [] => .ok []
  | skip + 1, _ :: bs => decodeFrom (at_ + 1) skip bs
  | 0, b :: bs =>
    if b.toNat < 0x80 then
      (Char.ofNat b.toNat :: ·) <$> decodeFrom (at_ + 1) 0 bs
    else
      match shape? b.toNat with
      | none => .error ⟨.invalidStart, at_, [b]⟩
      | some (low, high, count) =>
        match readTail low high (leadBits b.toNat count) 1 count bs with
        | .complete code =>
          (Char.ofNat code :: ·) <$> decodeFrom (at_ + 1) count bs
        | .broken seen =>
          .error ⟨.invalidContinuation, at_, b :: bs.take (seen - 1)⟩
        | .cut => .error ⟨.unexpectedEnd, at_, b :: bs⟩

/-- The text that a byte sequence encodes. -/
def decode (bytes : List UInt8) : Except Fault Text := decodeFrom 0 0 bytes

/-- A reason in words. -/
def Reason.message : Reason → Text
  | .invalidStart => "invalid start byte"
  | .invalidContinuation => "invalid continuation byte"
  | .unexpectedEnd => "unexpected end of data"

/-- A fault in words: one byte is named by its value, several by their
positions. -/
def Fault.message (f : Fault) : Text :=
  let place : Text := match f.bytes with
    | [b] =>
      "byte 0x" ++ ofNatPadded 16 2 b.toNat ++ " in position " ++ ofNat f.start
    | bs =>
      "bytes in position " ++ ofNat f.start ++ "-"
        ++ ofNat (f.start + bs.length - 1)
  "'utf-8' codec can't decode " ++ place ++ ": " ++ f.reason.message

end MetricAudit.Text.Utf8
