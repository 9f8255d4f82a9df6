/-
MetricAudit.Expression.Template — texts with inserts.

A mark `f` before the quotes makes a template: braces in it hold
expressions to be inserted, and a brace that stands for itself is written
twice. After the expression an insert can have an equals sign, a
conversion and, after a colon, a format, in which there can be inserts
once more.

Texts that stand next to each other make one text, so all of them have to
be of bytes, or none; `textsComplaint?` says what is wrong with them. It
is given a function that says what is wrong with an expression.
-/
import MetricAudit.Expression.Escape

namespace MetricAudit.Expression.Template

/-! ## Stretches between inserts -/

/-- Where a stretch of a template is read. -/
inductive Spot where
  | plain
  /-- After a backslash. -/
  | escaped
  /-- After the letter of an escape by name. -/
  | named
  /-- In the name of an escape. -/
  | inName

/-- A stretch up to the next insert. -/
structure Stretch where
  text : Text
  /-- Whether the stretch ends in a brace that stands for itself, of two. -/
  isDoubled : Bool
  rest : Text

/-- A brace. -/
def isBrace (c : Char) : Bool := c == '\x7b' || c == '\x7d'

/-- The stretch at the front of a text. In a format, where `nesting` is
not zero, no brace stands for itself. -/
def stretch (raw : Bool) (nesting : Nat) : Spot → Text → Except InsertFlaw Stretch
  | _, [] => .ok ⟨[], false, []⟩
  | spot, c :: s => do
    let onto (spot : Spot) : Except InsertFlaw Stretch := do
      let stretch ← stretch raw nesting spot s
      return { stretch with text := c :: stretch.text }
    let brace : Except InsertFlaw Stretch :=
      if !isBrace c then onto .plain
      else if nesting != 0 then .ok ⟨[], false, c :: s⟩
      else if s.head? = some c then .ok ⟨[c], true, s.drop 1⟩
      else if c = '\x7d' then .error .singleBrace
      else .ok ⟨[], false, c :: s⟩
    match spot with
    | .plain => if !raw && c = '\\' && !s.isEmpty then onto .escaped else brace
    | .escaped => if c = 'N' then onto .named else brace
    | .named => onto (if c = '\x7b' then .inName else .plain)
    | .inName => onto (if c = '\x7d' then .plain else .inName)

/-! ## Inserts -/

/-- A quote that is open in an insert. -/
structure OpenQuote where
  quote : Char
  isThreefold : Bool

/-- The rest after the expression of an insert. The first characters,
`skip` of them, are passed over. -/
def afterExpression (skip : Nat) (quote : Option OpenQuote) (opened : List Char) :
    Text → Except InsertFlaw Text
  | [] =>
    match quote, opened with
    | some _, _ => .error .unterminatedText
    | none, bracket :: _ => .error (.unmatched bracket)
    | none, [] => .ok []
  | c :: s =>
    match skip, quote with
    | skip + 1, _ => afterExpression skip quote opened s
    | 0, some ⟨q, isThreefold⟩ =>
      if c = '\\' then .error .backslash
      else if c != q then afterExpression 0 quote opened s
      else if !isThreefold then afterExpression 0 none opened s
      else if s.take 2 = [q, q] then afterExpression 2 none opened s
      else afterExpression 0 quote opened s
    | 0, none =>
      if c = '\\' then .error .backslash
      else if c = '\'' || c = '"' then
        if s.take 2 = [c, c] then afterExpression 2 (some ⟨c, true⟩) opened s
        else afterExpression 0 (some ⟨c, false⟩) opened s
      else if c = '(' || c = '\x7b' then
        if opened.length < mostBrackets then afterExpression 0 none (c :: opened) s
        else .error .tooManyBrackets
      else if c = '#' then .error .comment
      else
        let isSign := opened.isEmpty && ['!', ':', '\x7d', '=', '<', '>'].any (· == c)
        if isSign && ['!', '=', '<', '>'].any (· == c) && s.head? = some '=' then
          afterExpression 1 none opened s
        else if isSign && c != '<' && c != '>' then .ok (c :: s)
        else if c = ')' || c = '\x7d' then
          match opened with
          | [] => .error (.unmatched c)
          | bracket :: opened =>
            if closing bracket = c then afterExpression 0 none opened s
            else .error (.mismatched c bracket)
        else afterExpression 0 none opened s

/-- White space after the equals sign of an insert. -/
def isSpace (c : Char) : Bool := c == ' ' || (0x09 ≤ c.toNat && c.toNat ≤ 0x0d)

/-- A text that must not have ended. -/
def unended : Text → Except Complaint Text
  | [] => .error (.insert .endExpected)
  | s => .ok s

/-- The rest after an equals sign, where there is one. -/
def afterEquals : Text → Except Complaint Text
  | '=' :: s => unended (s.dropWhile isSpace)
  | s => .ok s

/-- The rest after a conversion, where there is one. -/
def afterConversion : Text → Except Complaint Text
  | '!' :: s => do
    match ← unended s with
    | c :: s =>
      if ['s', 'r', 'a'].any (· == c) then return s
      else .error (.insert .unknownConversion)
    | [] => return []
  | s => .ok s

/-- How deep inserts can be nested. -/
def mostNested : Nat := 2

/-- A flaw of an insert as a complaint. -/
def complained {α : Type} : Except InsertFlaw α → Except Complaint α
  | .ok a => .ok a
  | .error flaw => .error (.insert flaw)

/-- Check the text that is written for the expression of an insert, before
`rest`. -/
def checkExpression (reason? : Text → Option Text) (written rest : Text) :
    Except Complaint Unit :=
  if written.all fun c => isGap c || c == '\n' then
    match rest.head? with
    | some '\x7d' => .error (.insert .empty)
    | some sign => .error (.insert (.missingBefore sign))
    | none => .ok ()
  else
    match reason? ('(' :: (written ++ [')'])) with
    | some reason => .error (.inserted reason)
    | none => .ok ()

mutual

/-- The rest after stretches and inserts: nothing, or the end of the
insert whose format they are. The first argument bounds the steps; twice
the length of the text and two more are enough. -/
def afterParts (reason? : Text → Option Text) (raw : Bool) :
    Nat → (nesting : Nat) → Text → Except Complaint Text
  | 0, _, s => .ok s
  | fuel + 1, nesting, s => do
    let stretch ← complained (stretch raw nesting .plain s)
    match if raw then none else Escape.complaint? 0 false stretch.text with
    | some complaint => .error complaint
    | none =>
      if stretch.isDoubled then afterParts reason? raw fuel nesting stretch.rest
      else
        match stretch.rest with
        | '\x7b' :: s => do
          let rest ← afterInsert reason? raw fuel nesting s
          afterParts reason? raw fuel nesting rest
        | rest => if nesting = 0 then .ok rest else unended rest

/-- The rest after an insert, from the text after its brace on. -/
def afterInsert (reason? : Text → Option Text) (raw : Bool) :
    Nat → (nesting : Nat) → Text → Except Complaint Text
  | 0, _, s => .ok s
  | fuel + 1, nesting, s => do
    if mostNested ≤ nesting then .error (.insert .nestedTooDeep)
    else
      let rest ← unended (← complained (afterExpression 0 none [] s))
      checkExpression reason? (s.take (s.length - rest.length)) rest
      let rest ← unended (← afterConversion (← afterEquals rest))
      let rest ←
        match rest with
        | ':' :: format => do afterParts reason? raw fuel (nesting + 1) (← unended format)
        | rest => .ok rest
      match rest with
      | '\x7d' :: rest => return rest
      | _ => .error (.insert .endExpected)

end

/-- The complaint about the inserts of a template. -/
def complaint? (reason? : Text → Option Text) (raw : Bool) (s : Text) : Option Complaint :=
  match afterParts reason? raw (2 * s.length + 2) 0 s with
  | .ok _ => none
  | .error complaint => some complaint

/-! ## Texts side by side -/

/-- The complaint about one text that is no template. -/
def plainComplaint? (t : Token) : Option Complaint :=
  let body := Escape.body t
  if Escape.isBytes t && body.any (0x80 ≤ ·.toNat) then some .wideBytes
  else if Escape.isRaw t then none
  else if Escape.isBytes t then Escape.bytesComplaint? 0 false body
  else Escape.complaint? 0 false body

/-- The complaint about a text beside others, of bytes or not. -/
def tokenComplaint? (reason? : Text → Option Text) (bytes : Bool) (t : Token) :
    Option Complaint :=
  let mixed := if Escape.isBytes t = bytes then none else some .mixedTexts
  if Tree.hasMark 'f' t then
    mixed.or (complaint? reason? (Escape.isRaw t) (Escape.body t))
  else (plainComplaint? t).or mixed

/-- The complaint about texts side by side. -/
def textsComplaint? (reason? : Text → Option Text) (ts : List Token) : Option Complaint :=
  match ts with
  | [] => none
  | first :: _ => ts.findSome? (tokenComplaint? reason? (Escape.isBytes first))

end MetricAudit.Expression.Template
