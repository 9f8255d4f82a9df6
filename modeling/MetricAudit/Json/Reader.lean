/-
MetricAudit.Json.Reader — reading JSON.

`Json.read` reads a text as one JSON value. Besides the standard it
accepts the words `NaN`, `Infinity` and `-Infinity`. Integers are exact;
a number with a fraction or an exponent is the nearest double. Of entries
with the same name the last value counts, at the place of the first.

The reader stops at the first fault, and says what it expected and where.
An integer of more than 4300 digits is refused with its number of
digits, and a value that nests too deep for the room there is with the
task that gives up.

A `\u` escape of half a surrogate pair is no character unless the other
half follows. Such a half is read as the replacement character;
`hasHalf` tells whether a text writes one.
-/
import MetricAudit.Data.NestingLimit
import MetricAudit.Data.Value
import MetricAudit.Number.DigitLimit
import MetricAudit.Number.Numeral
import MetricAudit.Text.Hexadecimal
import MetricAudit.Text.Place

namespace MetricAudit.Json

/-- What is wrong with a text. -/
inductive Complaint where
  | valueExpected
  | nameExpected
  | colonExpected
  | commaExpected
  | extraData
  | unterminatedString
  | controlCharacter
  | invalidEscape
  | invalidCodeEscape
  | byteOrderMark
  deriving DecidableEq, Repr

def Complaint.message : Complaint → Text
  | .valueExpected => "Expecting value"
  | .nameExpected => "Expecting property name enclosed in double quotes"
  | .colonExpected => "Expecting ':' delimiter"
  | .commaExpected => "Expecting ',' delimiter"
  | .extraData => "Extra data"
  | .unterminatedString => "Unterminated string starting at"
  | .controlCharacter => "Invalid control character at"
  | .invalidEscape => "Invalid \\escape"
  | .invalidCodeEscape => "Invalid \\uXXXX escape"
  | .byteOrderMark => "Unexpected UTF-8 BOM (decode using utf-8-sig)"

/-- Why a text is not read: a complaint about the text `rest` that is
left, an integer that is too long, or data that nest too deep. -/
inductive Fault where
  | misplaced (complaint : Complaint) (rest : Text)
  | tooManyDigits (digits : Nat)
  | tooDeep (task : NestingLimit.Task)
  deriving DecidableEq, Repr

/-- Stop with a complaint. -/
def stop {α : Type} (complaint : Complaint) (rest : Text) : Except Fault α :=
  .error (.misplaced complaint rest)

/-- White space between the parts of a value. -/
def isSpace (c : Char) : Bool := c == ' ' || c == '\t' || c == '\n' || c == '\r'

/-- A text without the white space at its front. -/
def skipSpace (s : Text) : Text := s.dropWhile isSpace

/-! ## Strings -/

/-- The character that a backslash and a letter stand for. -/
def escaped? : Char → Option Char
  | '"' => some '"'
  | '\\' => some '\\'
  | '/' => some '/'
  | 'b' => some '\x08'
  | 'f' => some '\x0c'
  | 'n' => some '\n'
  | 'r' => some '\r'
  | 't' => some '\t'
  | _ => none

/-- Half of a surrogate pair. -/
def isSurrogate (n : Nat) : Bool := 0xd800 ≤ n && n < 0xe000

/-- The first half of a surrogate pair. -/
def isHighSurrogate (n : Nat) : Bool := 0xd800 ≤ n && n < 0xdc00

/-- The second half of a surrogate pair. -/
def isLowSurrogate (n : Nat) : Bool := 0xdc00 ≤ n && n < 0xe000

/-- The character of a code; half a pair is replaced. -/
def ofCode (n : Nat) : Char := if isSurrogate n then '\ufffd' else Char.ofNat n

/-- The code of a surrogate pair. -/
def ofPair (high low : Nat) : Nat := 0x10000 + (high - 0xd800) * 0x400 + (low - 0xdc00)

/-- The four hexadecimal digits at the front of a text, and what follows
them; none where nothing follows. -/
def takeUnit? : Text → Option (Nat × Text)
  | a :: b :: c :: d :: e :: s => (Text.hexNumber? [a, b, c, d]).map (·, e :: s)
  | _ => none

/-- Whether a code escape with an end after it follows. -/
def startsUnit (s : Text) : Bool :=
  match s with
  | '\\' :: 'u' :: t => 4 < t.length
  | _ => false

/-- The code that the text after a backslash stands for, and how many
characters it takes. -/
def readEscape : Text → Except Fault (Nat × Nat)
  | [] => .error (.misplaced .invalidEscape ['\\'])
  | 'u' :: s =>
    match takeUnit? s with
    | none => .error (.misplaced .invalidCodeEscape ('u' :: s))
    | some (high, rest) =>
      if isHighSurrogate high && startsUnit rest then
        match takeUnit? (rest.drop 2) with
        | none => .error (.misplaced .invalidCodeEscape (rest.drop 1))
        | some (low, _) =>
          if isLowSurrogate low then .ok (ofPair high low, 11)
          else .ok (high, 5)
      else .ok (high, 5)
  | c :: s =>
    match escaped? c with
    | some d => .ok (d.toNat, 1)
    | none => .error (.misplaced .invalidEscape ('\\' :: c :: s))

/-- Read a string after its opening mark, which starts `opening`. The
first characters, `skip` of them, belong to an escape that is already
read. -/
def readString (opening : Text) : Nat → Text → Except Fault (Text × Text)
  | _, [] => stop .unterminatedString opening
  | skip + 1, _ :: s => readString opening skip s
  | 0, c :: s =>
    if c = '"' then .ok ([], s)
    else if c = '\\' then
      if s.isEmpty then stop .unterminatedString opening
      else do
        let (code, taken) ← readEscape s
        let (string, rest) ← readString opening taken s
        return (ofCode code :: string, rest)
    else if c.toNat < 0x20 then stop .controlCharacter (c :: s)
    else do
      let (string, rest) ← readString opening 0 s
      return (c :: string, rest)

/-- The whole part of a number: zero alone, or digits that do not start
with zero. -/
def takeWhole? : Text → Option (Text × Text)
  | '0' :: s => some (['0'], s)
  | c :: s => if Text.isAsciiDigit c then some ((c :: s).span Text.isAsciiDigit) else none
  | [] => none

/-- The digits of a fraction, where a point and a digit stand. -/
def takeFraction? : Text → Option (Text × Text)
  | '.' :: c :: s =>
    if Text.isAsciiDigit c then some ((c :: s).span Text.isAsciiDigit) else none
  | _ => none

/-- The exponent, where its mark and a digit stand. -/
def takeExponent? : Text → Option (Int × Text)
  | e :: s =>
    if e = 'e' ∨ e = 'E' then
      let (negative, s) := Numeral.takeSign s
      match s.span Text.isAsciiDigit with
      | ([], _) => none
      | (digits, rest) =>
        let n := Text.natOfDigits digits
        some (if negative then -(n : Int) else n, rest)
    else none
  | [] => none

/-- Read the longest number at the front of a text. -/
def readNumber (s : Text) : Except Fault (Data × Text) :=
  let (negative, t) : Bool × Text := match s with
    | '-' :: t => (true, t)
    | t => (false, t)
  match takeWhole? t with
  | none => stop .valueExpected s
  | some (whole, t) =>
    let fraction := takeFraction? t
    let t := (fraction.map (·.2)).getD t
    let exponent := takeExponent? t
    let t := (exponent.map (·.2)).getD t
    match fraction, exponent with
    | none, none =>
      if DigitLimit.most < whole.length then .error (.tooManyDigits whole.length)
      else
        let n := Text.natOfDigits whole
        .ok (.integer (if negative then -(n : Int) else n), t)
    | _, _ =>
      let numeral : Numeral :=
        ⟨negative, whole, (fraction.map (·.1)).getD [], (exponent.map (·.1)).getD 0⟩
      .ok (.real numeral.value, t)

/-- The values that are written as words. -/
def words : List (Text × Data) :=
  [("null", .nothing), ("true", .bool true), ("false", .bool false),
   ("NaN", .real .nan), ("Infinity", .real (.infinity false)),
   ("-Infinity", .real (.infinity true))]

/-- The word at the front of a text. -/
def readWord? (s : Text) : Option (Data × Text) :=
  words.findSome? fun (word, value) => (word.isPrefixOf? s).map (value, ·)

/-! ## Values -/

/-- What gives up where there is no room for the value that a text starts
with. -/
def taskOf : Text → NestingLimit.Task
  | '[' :: _ => .readJsonList
  | '\x7b' :: _ => .readJsonTable
  | _ => .readJsonWord

section
variable (room : NestingLimit.Room)

mutual

/-- Read a value at the front of a text, with so many levels around it.
The first argument bounds the steps; twice the length of the text and two
more are enough. -/
def readValue : Nat → (levels : Nat) → Text → Except Fault (Data × Text)
  | 0, _, s => stop .valueExpected s
  | fuel + 1, levels, s =>
    if room levels s then
      match s with
      | '"' :: t => do
        let (string, rest) ← readString s 0 t
        return (.text string, rest)
      | '[' :: t =>
        match skipSpace t with
        | ']' :: rest => .ok (.list [], rest)
        | t => do
          let (items, rest) ← readItems fuel (levels + 1) t
          return (.list items, rest)
      | '\x7b' :: t =>
        match skipSpace t with
        | '\x7d' :: rest => .ok (.table [], rest)
        | t => do
          let (entries, rest) ← readEntries fuel (levels + 1) [] t
          return (.table entries, rest)
      | s =>
        match readWord? s with
        | some word => .ok word
        | none => readNumber s
    else .error (.tooDeep (taskOf s))

/-- Read the items of a list up to the bracket that closes it. -/
def readItems : Nat → (levels : Nat) → Text → Except Fault (List Data × Text)
  | 0, _, s => stop .valueExpected s
  | fuel + 1, levels, s => do
    let (item, rest) ← readValue fuel levels s
    match skipSpace rest with
    | ']' :: rest => return ([item], rest)
    | ',' :: rest =>
      let (items, rest) ← readItems fuel levels (skipSpace rest)
      return (item :: items, rest)
    | rest => stop .commaExpected rest

/-- Read the entries of a table up to the brace that closes it, and add
them to the entries before. -/
def readEntries : Nat → (levels : Nat) → Table → Text → Except Fault (Table × Text)
  | 0, _, _, s => stop .nameExpected s
  | fuel + 1, levels, entries, s =>
    match s with
    | '"' :: t => do
      let (name, rest) ← readString s 0 t
      match skipSpace rest with
      | ':' :: rest =>
        let (value, rest) ← readValue fuel levels (skipSpace rest)
        let entries := entries.set name value
        match skipSpace rest with
        | '\x7d' :: rest => return (entries, rest)
        | ',' :: rest => readEntries fuel levels entries (skipSpace rest)
        | rest => stop .commaExpected rest
      | rest => stop .colonExpected rest
    | s => stop .nameExpected s

end

/-- Read a text as one value. -/
def read (s : Text) : Except Fault Data :=
  match s with
  | '\ufeff' :: _ => .error (.misplaced .byteOrderMark s)
  | s => do
    let (value, rest) ← readValue room (2 * s.length + 2) 0 (skipSpace s)
    match skipSpace rest with
    | [] => return value
    | rest => .error (.misplaced .extraData rest)

end

/-- A complaint about a text, with its place. -/
def misplacedMessage (whole : Text) (complaint : Complaint) (rest : Text) : Text :=
  let place := Text.Place.of whole rest
  complaint.message ++ ": line " ++ Text.ofNat place.line ++ " column "
    ++ Text.ofNat place.column ++ " (char " ++ Text.ofNat place.offset ++ ")"

end MetricAudit.Json
