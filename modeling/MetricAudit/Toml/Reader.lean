/-
MetricAudit.Toml.Reader — reading TOML documents.

`Toml.read` reads a text as a TOML 1.0 document and gives its top table.
A document is a sequence of statements, each on a line of its own: pairs
of a key and a value, and headers that declare a table or a further table
of a list. The reader stops at the first fault.
-/
import MetricAudit.Text.Lines
import MetricAudit.Toml.Namespace
import MetricAudit.Toml.Scalars

namespace MetricAudit.Toml

/-! ## Comments -/

/-- Skip a comment up to the end of its line. -/
def skipCommentText : Text → Except Fault Text
  | [] => .ok []
  | c :: s =>
    if c = '\n' then .ok (c :: s)
    else if isControl c then stop (.invalidCharacter c) (c :: s)
    else skipCommentText s

/-- Skip a comment where one starts. -/
def skipComment : Text → Except Fault Text
  | '#' :: s => skipCommentText s
  | s => .ok s

/-- Skip white space, newlines and comments. The first argument says
whether the text starts inside a comment. -/
def skipFiller : Bool → Text → Except Fault Text
  | _, [] => .ok []
  | true, c :: s =>
    if c = '\n' then skipFiller false s
    else if isControl c then stop (.invalidCharacter c) (c :: s)
    else skipFiller true s
  | false, c :: s =>
    if isSpace c || c == '\n' then skipFiller false s
    else if c = '#' then skipFiller true s
    else .ok (c :: s)

/-! ## Keys -/

/-- A character of a key without quotation marks. -/
def isBareKeyChar (c : Char) : Bool :=
  ('a' ≤ c && c ≤ 'z') || ('A' ≤ c && c ≤ 'Z') || Text.isAsciiDigit c
    || c == '-' || c == '_'

/-- A character that a key starts with. -/
def startsKey (c : Char) : Bool := isBareKeyChar c || c == '"' || c == '\''

/-- Read one part of a key. -/
def readKeyPart (s : Text) : Except Fault (Text × Text) :=
  match s.takeWhile isBareKeyChar with
  | [] => (readLineString? s).getD (stop .invalidKeyStart s)
  | part => .ok (part, s.dropWhile isBareKeyChar)

/-- Read a key, and the white space after it. The first argument bounds
the number of its parts. -/
def readKey : Nat → Text → Except Fault (Key × Text)
  | 0, s => stop .invalidKeyStart s
  | fuel + 1, s => do
    let (part, rest) ← readKeyPart s
    match skipSpace rest with
    | '.' :: rest =>
      let (parts, rest) ← readKey fuel (skipSpace rest)
      return (part :: parts, rest)
    | rest => return ([part], rest)

/-- Read a key and the equals sign after it. -/
def readKeyEquals (s : Text) : Except Fault (Key × Text) := do
  let (key, rest) ← readKey (s.length + 1) s
  match rest with
  | '=' :: rest => return (key, skipSpace rest)
  | rest => stop .equalsExpected rest

/-! ## Values -/

/-- A value without parts: a truth value, a moment or a number. -/
def readScalar (s : Text) : Except Fault (Data × Text) :=
  match ("true" : Text).isPrefixOf? s, ("false" : Text).isPrefixOf? s with
  | some rest, _ => .ok (.bool true, rest)
  | _, some rest => .ok (.bool false, rest)
  | none, none =>
    match readMoment? s <|> readNumber? s with
    | some read => read
    | none =>
      match readSpecial? s with
      | some read => .ok read
      | none => stop .invalidValue s

/-- Turn a complaint into a fault at a place. -/
def placed {α : Type} (rest : Text) : Except Complaint α → Except Fault α
  | .ok a => .ok a
  | .error complaint => stop complaint rest

section
variable (room : NestingLimit.Room)

mutual

/-- Read a value, with so many levels around it. The first argument
bounds the steps; twice the length of the text and two more are enough. -/
def readValue : Nat → (levels : Nat) → Text → Except Fault (Data × Text)
  | 0, _, s => stop .invalidValue s
  | fuel + 1, levels, s =>
    if room levels s then
      match readString? s with
      | some read => do
        let (string, rest) ← read
        return (.text string, rest)
      | none =>
        match s with
        | '[' :: t => do
          match ← skipFiller false t with
          | ']' :: rest => return (.list [], rest)
          | t =>
            let (items, rest) ← readItems fuel (levels + NestingLimit.listLevels) t
            return (.list items, rest)
        | '\x7b' :: t =>
          match skipSpace t with
          | '\x7d' :: rest => .ok (.table [], rest)
          | t => do
            let (entries, rest) ← readPairs fuel (levels + NestingLimit.tableLevels) [] [] t
            return (.table entries, rest)
        | s => readScalar s
    else .error (.tooDeep .readToml)

/-- Read the items of a list up to the bracket that closes it. A comma
may stand before that. -/
def readItems : Nat → (levels : Nat) → Text → Except Fault (List Data × Text)
  | 0, _, s => stop .invalidValue s
  | fuel + 1, levels, s => do
    let (item, rest) ← readValue fuel levels s
    match ← skipFiller false rest with
    | ']' :: rest => return ([item], rest)
    | ',' :: rest =>
      match ← skipFiller false rest with
      | ']' :: rest => return ([item], rest)
      | rest =>
        let (items, rest) ← readItems fuel levels rest
        return (item :: items, rest)
    | rest => stop .unclosedArray rest

/-- Read the pairs of an inline table up to the brace that closes it, and
add them to the entries before. The keys of the containers among those
are frozen. -/
def readPairs : Nat → (levels : Nat) → Table → List Key → Text →
    Except Fault (Table × Text)
  | 0, _, _, _, s => stop .invalidValue s
  | fuel + 1, levels, entries, frozen, s => do
    let (key, rest) ← readKeyEquals s
    let (value, rest) ← readValue fuel levels rest
    if freezes frozen key then stop (.immutable key) rest
    else
      let entries ← placed rest (defineAt false .duplicateKey key value entries)
      match skipSpace rest with
      | '\x7d' :: rest => return (entries, rest)
      | ',' :: rest =>
        let frozen := if isContainer value then key :: frozen else frozen
        readPairs fuel levels entries frozen (skipSpace rest)
      | rest => stop .unclosedTable rest

end

/-! ## Statements -/

/-- Read the key of a header and the brackets that close it. -/
def readHeader (closing : Text) (unclosed : Complaint)
    (declare : Key → Except Complaint Draft) (s : Text) : Except Fault (Draft × Text) := do
  let (key, rest) ← readKey (s.length + 1) (skipSpace s)
  let draft ← placed rest (declare key)
  match closing.isPrefixOf? rest with
  | some rest => return (draft, rest)
  | none => stop unclosed rest

/-- Read a statement. A comment is an empty one. -/
def readStatement (draft : Draft) (s : Text) : Except Fault (Draft × Text) :=
  match s with
  | '[' :: '[' :: t => readHeader "]]" .listEndExpected draft.settle.openItem t
  | '[' :: t => readHeader "]" .tableEndExpected draft.settle.openTable t
  | '#' :: _ => .ok (draft, s)
  | c :: _ =>
    if startsKey c then do
      let (key, rest) ← readKeyEquals s
      let (value, rest) ← readValue room (2 * rest.length + 2) 0 rest
      let draft ← placed rest (draft.addPair key value)
      return (draft, rest)
    else stop .invalidStatement s
  | [] => stop .invalidStatement s

/-- Read the statements of a document. The first argument bounds the
number of lines. -/
def readStatements : Nat → Draft → Text → Except Fault Table
  | 0, draft, _ => .ok draft.data
  | fuel + 1, draft, s =>
    match skipSpace s with
    | [] => .ok draft.data
    | '\n' :: rest => readStatements fuel draft rest
    | s => do
      let (draft, rest) ← readStatement room draft s
      match ← skipComment (skipSpace rest) with
      | [] => return draft.data
      | '\n' :: rest => readStatements fuel draft rest
      | rest => stop .lineEndExpected rest

/-- The text of a document as it is read. -/
def lines (document : Text) : Text := Text.joinDoubleEnds document

/-- Read a document. -/
def read (document : Text) : Except Fault Table :=
  let s := lines document
  readStatements room (s.length + 1) {} s

end

end MetricAudit.Toml
