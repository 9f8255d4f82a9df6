/-
MetricAudit.Expression.Token — the tokens of expressions.

An expression is a text on one line, made of names, numbers, texts in
quotes, and signs, with blanks between them as one likes; `#` starts a
comment. Brackets have to match, so a token knows how many of them are
open after it.

`Tokens.of` cuts a text into tokens up to the first place where there is
none; `LexicalFault` says what is wrong there.
-/
import MetricAudit.Text.DecimalDigit
import MetricAudit.Text.Hexadecimal
import MetricAudit.Text.NameChar
import MetricAudit.Text.Printable

namespace MetricAudit.Expression

/-- What a token is. -/
inductive TokenKind where
  | name
  /-- A name that the language of expressions keeps for itself. -/
  | keyword
  | number
  | quote
  | sign
  /-- The end of the expression. -/
  | finish
  deriving DecidableEq, Repr

/-- A token, with the number of brackets that are open after it. -/
structure Token where
  kind : TokenKind
  text : Text
  depth : Nat
  deriving DecidableEq, Repr

/-- Why a text cannot be cut into tokens. -/
inductive LexicalFault where
  | unclosed (bracket : Char)
  | afterBackslash
  | unmatched (bracket : Char)
  | mismatched (closing opening : Char)
  | tooDeep
  | unterminated (threefold : Bool)
  | strayCharacter (c : Char)
  | malformedNumber (kind : Text)
  | strayDigit (digit : Char) (kind : Text)
  | leadingZeros
  deriving DecidableEq, Repr

namespace LexicalFault

def message : LexicalFault → Text
  | .unclosed bracket => ['\''] ++ [bracket] ++ "' was never closed"
  | .afterBackslash => "unexpected character after line continuation character"
  | .unmatched bracket => "unmatched '" ++ [bracket] ++ "'"
  | .mismatched closing opening =>
    "closing parenthesis '" ++ [closing] ++ "' does not match opening parenthesis '"
      ++ [opening] ++ "'"
  | .tooDeep => "too many nested parentheses"
  | .unterminated true => "unterminated triple-quoted string literal (detected at line 1)"
  | .unterminated false => "unterminated string literal (detected at line 1)"
  | .strayCharacter c =>
    if Text.isPrintable c then
      "invalid character '" ++ [c] ++ "' (U+" ++ Text.codePoint c.toNat ++ ")"
    else "invalid non-printable character U+" ++ Text.codePoint c.toNat
  | .malformedNumber kind => "invalid " ++ kind ++ " literal"
  | .strayDigit digit kind => "invalid digit '" ++ [digit] ++ "' in " ++ kind ++ " literal"
  | .leadingZeros =>
    "leading zeros in decimal integer literals are not permitted; " ++
      "use an 0o prefix for octal integers"

/-- Whether a fault is reported even if the tokens before it make no
expression. -/
def prevails : LexicalFault → Bool
  | .unclosed _ => false
  | .afterBackslash => false
  | _ => true

end LexicalFault

/-! ## Numbers -/

/-- A character of names, as far as cutting goes: every one outside ASCII
counts. -/
def isNamePart (c : Char) : Bool := c.isAlphanum || c == '_' || 0x80 ≤ c.toNat

/-- Whether a keyword stands at the front of a text. -/
def startsWith (keyword : Text) (s : Text) : Bool :=
  keyword.isPrefixOf s && !(s.drop keyword.length).head?.any isNamePart

/-- Whether a number can end before a text: no name in ASCII follows it,
unless it is a keyword that joins expressions. -/
def numberEndsBefore (s : Text) : Bool :=
  !s.head?.any (fun c => isNamePart c && c.toNat < 0x80)
    || ["and", "else", "for", "not", "or"].any fun k => startsWith k.toList s
    || ["if", "in", "is"].any fun k => k.toList.isPrefixOf s

/-- The rest after a number, which has to end there. -/
def numberEnd (kind : Text) (rest : Text) : Except LexicalFault Text :=
  if numberEndsBefore rest then .ok rest else .error (.malformedNumber kind)

/-- The rest after the digits of a number that has digits already. An
underscore can stand between two digits. -/
def afterDigits : Text → Except LexicalFault Text
  | [] => .ok []
  | c :: cs =>
    if Text.isAsciiDigit c then afterDigits cs
    else if c = '_' then
      match cs with
      | d :: ds => if Text.isAsciiDigit d then afterDigits ds else .error (.malformedNumber "decimal")
      | [] => .error (.malformedNumber "decimal")
    else .ok (c :: cs)

/-- The rest after the mark of an imaginary number, where there is one. -/
def afterImaginary : Text → Except LexicalFault Text
  | 'j' :: s => numberEnd "imaginary" s
  | 'J' :: s => numberEnd "imaginary" s
  | s => numberEnd "decimal" s

/-- The rest after an exponent. A mark without digits after it belongs to
what follows. -/
def afterExponent (s : Text) : Except LexicalFault Text :=
  match s with
  | e :: cs =>
    if e = 'e' || e = 'E' then
      let signed := cs.head? == some '+' || cs.head? == some '-'
      match if signed then cs.drop 1 else cs with
      | d :: ds =>
        if Text.isAsciiDigit d then afterDigits ds >>= afterImaginary
        else if signed then .error (.malformedNumber "decimal")
        else numberEnd "decimal" s
      | [] => if signed then .error (.malformedNumber "decimal") else numberEnd "decimal" s
    else afterImaginary s
  | [] => .ok []

/-- The rest after the digits of a fraction, and what follows them. -/
def afterFraction (s : Text) : Except LexicalFault Text :=
  match s with
  | d :: ds => if Text.isAsciiDigit d then afterDigits ds >>= afterExponent else afterExponent s
  | [] => .ok []

/-- The rest after a decimal number whose whole part has been read. -/
def afterWhole : Text → Except LexicalFault Text
  | '.' :: s => afterFraction s
  | s => afterExponent s

/-- The rest after digits in another base. `needed` says that a digit has
to come, `free` that an underscore can. -/
def afterBaseDigits (isDigit : Char → Bool) (fault : Option Char → LexicalFault)
    (needed free : Bool) : Text → Except LexicalFault Text
  | [] => if needed then .error (fault none) else .ok []
  | c :: cs =>
    if isDigit c then afterBaseDigits isDigit fault false true cs
    else if c = '_' && free then afterBaseDigits isDigit fault true false cs
    else if needed then .error (fault (some c))
    else .ok (c :: cs)

/-- The rest after a number in base two or eight. -/
def afterSmallBase (kind : Text) (isDigit : Char → Bool) (s : Text) :
    Except LexicalFault Text := do
  let fault (c : Option Char) : LexicalFault :=
    match c with
    | some c => if Text.isAsciiDigit c then .strayDigit c kind else .malformedNumber kind
    | none => .malformedNumber kind
  let rest ← afterBaseDigits isDigit fault true true s
  match rest with
  | c :: _ =>
    if Text.isAsciiDigit c then .error (.strayDigit c kind) else numberEnd kind rest
  | [] => .ok []

/-- The rest after the zeros at the front of a number that has one
already. -/
def afterZeros : Text → Except LexicalFault Text
  | [] => .ok []
  | c :: cs =>
    if c = '0' then afterZeros cs
    else if c = '_' then
      match cs with
      | d :: ds =>
        if d = '0' then afterZeros ds
        else if Text.isAsciiDigit d then .ok (d :: ds)
        else .error (.malformedNumber "decimal")
      | [] => .error (.malformedNumber "decimal")
    else .ok (c :: cs)

/-- The rest after a decimal number that starts with zero: only zeros, or
a fraction, an exponent or an imaginary mark after other digits. -/
def afterLeadingZero (s : Text) : Except LexicalFault Text := do
  let rest ← afterZeros s
  match rest with
  | d :: ds =>
    if Text.isAsciiDigit d then
      let rest ← afterDigits ds
      if ['.', 'e', 'E', 'j', 'J'].any fun c => rest.head? == some c then afterWhole rest
      else .error .leadingZeros
    else afterWhole rest
  | [] => .ok []

/-- A hexadecimal digit. -/
def isHexadecimal (c : Char) : Bool := (Text.hexDigit? c).isSome

/-- The rest after a number that starts with zero, after the zero. -/
def afterZero : Text → Except LexicalFault Text
  | c :: s =>
    if c = 'x' || c = 'X' then
      afterBaseDigits isHexadecimal (fun _ => .malformedNumber "hexadecimal") true true s
        >>= numberEnd "hexadecimal"
    else if c = 'o' || c = 'O' then afterSmallBase "octal" (fun c => '0' ≤ c && c < '8') s
    else if c = 'b' || c = 'B' then afterSmallBase "binary" (fun c => c == '0' || c == '1') s
    else afterLeadingZero (c :: s)
  | [] => .ok []

/-- The rest after the number at the front of a text. -/
def afterNumber : Text → Except LexicalFault Text
  | '.' :: s => afterFraction s
  | '0' :: s => afterZero s
  | _ :: s => afterDigits s >>= afterWhole
  | [] => .ok []

/-! ## Texts in quotes -/

/-- What can stand before the quotes of a text, in lower case. -/
def quoteMarks : List String := ["", "b", "r", "u", "f", "br", "rb", "fr", "rf"]

/-- The length of the marks before a quote at the front of a text. -/
def marksLength? (s : Text) : Option Nat :=
  ([0, 1, 2] : List Nat).find? fun n =>
    quoteMarks.any (fun marks => marks.toList = (s.take n).map Char.toLower)
      && (s[n]? == some '"' || s[n]? == some '\'')

/-- The rest after a text that ends at the next single quote. -/
def afterQuote (quote : Char) : Text → Except LexicalFault Text
  | [] => .error (.unterminated false)
  | '\\' :: cs =>
    match cs with
    | _ :: cs => afterQuote quote cs
    | [] => .error (.unterminated false)
  | c :: cs => if c = quote then .ok cs else afterQuote quote cs

/-- The rest after a text that ends at the next three quotes. -/
def afterQuotes (quote : Char) : Text → Except LexicalFault Text
  | [] => .error (.unterminated true)
  | '\\' :: cs =>
    match cs with
    | _ :: cs => afterQuotes quote cs
    | [] => .error (.unterminated true)
  | c :: cs =>
    if c = quote && cs.take 2 = [quote, quote] then .ok (cs.drop 2) else afterQuotes quote cs

/-- The rest after a text in quotes, from its first quote. -/
def afterQuoted : Text → Except LexicalFault Text
  | q :: cs =>
    if cs.take 2 = [q, q] then afterQuotes q (cs.drop 2) else afterQuote q cs
  | [] => .ok []

/-! ## Names and signs -/

/-- The names that the language keeps for itself. -/
def keywords : List String :=
  ["False", "None", "True", "and", "as", "assert", "async", "await", "break", "class",
   "continue", "def", "del", "elif", "else", "except", "finally", "for", "from", "global",
   "if", "import", "in", "is", "lambda", "nonlocal", "not", "or", "pass", "raise",
   "return", "try", "while", "with", "yield"]

/-- The character that keeps a text from being a name. -/
def strayInName? : Text → Option Char
  | [] => none
  | c :: cs =>
    if Text.isNameStart c then cs.find? fun d => !Text.isNameChar d else some c

/-- The signs of several characters, longer ones first. -/
def longSigns : List String :=
  ["**=", "...", "//=", "<<=", ">>=", "!=", "%=", "&=", "**", "*=", "+=", "-=", "->",
   "//", "/=", ":=", "<<", "<=", "<>", "==", ">=", ">>", "@=", "^=", "|="]

/-- The sign at the front of a text. -/
def signAt (s : Text) : Text :=
  match longSigns.find? fun sign => sign.toList.isPrefixOf s with
  | some sign => sign.toList
  | none => s.take 1

/-- The bracket that closes one. -/
def closing (bracket : Char) : Char := if bracket = '(' then ')' else '\x7d'

/-- How deep brackets can be nested. -/
def mostBrackets : Nat := 200

/-- The open brackets after a sign, the last one first. -/
def bracketsAfter (opened : List Char) (sign : Text) : Except LexicalFault (List Char) :=
  match sign with
  | [c] =>
    if c = '(' || c = '\x7b' then
      if opened.length < mostBrackets then .ok (c :: opened) else .error .tooDeep
    else if c = ')' || c = '\x7d' then
      match opened with
      | [] => .error (.unmatched c)
      | bracket :: opened =>
        if closing bracket = c then .ok opened else .error (.mismatched c bracket)
    else if Text.isPrintable c then .ok opened
    else .error (.strayCharacter c)
  | _ => .ok opened

/-! ## Cutting -/

/-- What is taken from the front of a text, with the open brackets after
it. -/
structure Cut where
  token : Token
  opened : List Char
  rest : Text

/-- A token that opens and closes nothing, up to the rest of the text. -/
def cutAt (kind : TokenKind) (opened : List Char) (s rest : Text) : Cut :=
  ⟨⟨kind, s.take (s.length - rest.length), opened.length⟩, opened, rest⟩

/-- The name or keyword at the front of a text. -/
def cutName (opened : List Char) (s : Text) : Except LexicalFault Cut :=
  let name := s.takeWhile isNamePart
  match if name.all (·.toNat < 0x80) then none else strayInName? name with
  | some c => .error (.strayCharacter c)
  | none =>
    let kind := if keywords.any (·.toList = name) then TokenKind.keyword else .name
    .ok (cutAt kind opened s (s.drop name.length))

/-- The sign at the front of a text. -/
def cutSign (opened : List Char) (s : Text) : Except LexicalFault Cut := do
  let sign := signAt s
  let opened ← bracketsAfter opened sign
  return ⟨⟨.sign, sign, opened.length⟩, opened, s.drop sign.length⟩

/-- Whether a number stands at the front of a text. -/
def startsNumber : Text → Bool
  | '.' :: d :: _ => Text.isAsciiDigit d
  | c :: _ => Text.isAsciiDigit c
  | [] => false

/-- The token at the front of a text that starts with no blank. -/
def cut (opened : List Char) (s : Text) : Except LexicalFault Cut :=
  match marksLength? s with
  | some n => return cutAt .quote opened s (← afterQuoted (s.drop n))
  | none =>
    if startsNumber s then return cutAt .number opened s (← afterNumber s)
    else if s.head?.any isNamePart then cutName opened s
    else if s.head? = some '\\' then .error .afterBackslash
    else cutSign opened s

/-- The tokens of a text, up to its end or to a fault. -/
structure Tokens where
  tokens : Array Token
  fault : Option LexicalFault

/-- A blank between tokens. -/
def isGap (c : Char) : Bool := c == ' ' || c == '\t' || c == '\x0c'

/-- Cut so many tokens at most off a text, after those that have been cut. -/
def cutAll (most : Nat) (tokens : Array Token) (opened : List Char) (s : Text) : Tokens :=
  match most with
  | 0 => ⟨tokens, none⟩
  | most + 1 =>
    let s := s.dropWhile isGap
    if s.isEmpty || s.head? = some '#' then
      match opened with
      | [] => ⟨tokens.push ⟨.finish, [], 0⟩, none⟩
      | bracket :: _ => ⟨tokens, some (.unclosed bracket)⟩
    else
      match cut opened s with
      | .ok c => cutAll most (tokens.push c.token) c.opened c.rest
      | .error fault => ⟨tokens, some fault⟩

/-- The tokens of a text. It has no more of them than characters, and the
end is one more. -/
def Tokens.of (s : Text) : Tokens := cutAll (s.length + 1) #[] [] s

end MetricAudit.Expression
