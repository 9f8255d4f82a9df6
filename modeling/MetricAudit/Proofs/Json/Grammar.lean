/-
MetricAudit.Proofs.Json.Grammar — the standard texts of data.

`Writes d s` is the grammar of JSON together with what it means: `s` is a
standard text of `d`. The grammar has no words for infinities and `nan`,
names each entry of a table once, and allows white space between all
parts.

The reader takes every text of the grammar for what it writes
(`read_of_writes`), as long as the data are within the limits of reading.
The proof goes along the grammar: each kind of value is read off the
front of a text, and what follows is left (`readsAs_of_writes`).
-/
import MetricAudit.Proofs.Data.Table
import MetricAudit.Proofs.Json.Reader
import MetricAudit.Proofs.Number.Spelling

namespace MetricAudit.Json

open Text (isAsciiDigit natOfDigits)

/-! ## The grammar -/

/-- A text stands for a character of a string. -/
inductive WritesChar : Char → Text → Prop
  | plain {c : Char} (hcontrol : 0x20 ≤ c.toNat) (hmark : c ≠ '"') (hslash : c ≠ '\\') :
      WritesChar c [c]
  | letter {letter c : Char} (hletter : escaped? letter = some c) : WritesChar c ['\\', letter]
  | unit {digits : Text} {n : Nat} (hlength : digits.length = 4)
      (hnumber : Text.hexNumber? digits = some n) (hunit : ¬(0xd800 ≤ n ∧ n < 0xe000)) :
      WritesChar (Char.ofNat n) ('\\' :: 'u' :: digits)
  | pair {first second : Text} {high low : Nat} (hfirst : first.length = 4)
      (hsecond : second.length = 4) (hnumber : Text.hexNumber? first = some high)
      (hnumber' : Text.hexNumber? second = some low) (hhigh : isHighSurrogate high = true)
      (hlow : isLowSurrogate low = true) :
      WritesChar (Char.ofNat (ofPair high low)) ('\\' :: 'u' :: (first ++ '\\' :: 'u' :: second))

/-- A string: its characters one by one between quotation marks. -/
def WritesString (s t : Text) : Prop :=
  ∃ pieces, List.Forall₂ WritesChar s pieces ∧ t = '"' :: (pieces.flatten ++ ['"'])

/-- A fraction with its point, nothing for want of one. -/
def pointed : Text → Text
  | [] => []
  | fraction => '.' :: fraction

/-- A number: an integer, or a real number if it has a fraction or an
exponent. -/
inductive WritesNumber : Data → Text → Prop
  | integer (negative : Bool) (n : Nat) :
      WritesNumber (.integer (if negative then -(n : Int) else n))
        (Binary64.signed negative (Text.ofNat n))
  | real (negative : Bool) (n : Nat) {fraction tail : Text} {exponent : Int}
      (hdigits : ∀ c ∈ fraction, isAsciiDigit c = true)
      (htail : Numeral.exponent? tail = some exponent) (hreal : fraction ≠ [] ∨ tail ≠ []) :
      WritesNumber (.real (Numeral.value ⟨negative, Text.ofNat n, fraction, exponent⟩))
        (Binary64.signed negative (Text.ofNat n ++ (pointed fraction ++ tail)))

/-- White space only. -/
def AllSpace (s : Text) : Prop := ∀ c ∈ s, isSpace c = true

/-- Parts, each with white space around it, and commas between them. -/
inductive Separated : List Text → Text → Prop
  | last {before part after : Text} (hbefore : AllSpace before) (hafter : AllSpace after) :
      Separated [part] (before ++ (part ++ after))
  | cons {before part after : Text} {parts : List Text} {s : Text} (hbefore : AllSpace before)
      (hafter : AllSpace after) (hparts : Separated parts s) :
      Separated (part :: parts) (before ++ (part ++ (after ++ ',' :: s)))

/-- Parts between two brackets. -/
def Enclosed (opening closing : Char) (parts : List Text) (s : Text) : Prop :=
  ∃ inside, s = opening :: (inside ++ [closing]) ∧
    (parts = [] ∧ AllSpace inside ∨ Separated parts inside)

/-- An entry of a table as it is written: the texts of its name and its
value, and the white space around the colon between them. -/
structure Member where
  name : Text
  value : Data
  nameText : Text
  valueText : Text
  before : Text
  after : Text

/-- The text of an entry. -/
def Member.text (m : Member) : Text :=
  m.nameText ++ (m.before ++ ':' :: (m.after ++ m.valueText))

/-- The entry that is written. -/
def Member.entry (m : Member) : Text × Data := (m.name, m.value)

/-- A text writes data. -/
inductive Writes : Data → Text → Prop
  | nothing : Writes .nothing "null"
  | yes : Writes (.bool true) "true"
  | no : Writes (.bool false) "false"
  | number {d : Data} {s : Text} (hnumber : WritesNumber d s) : Writes d s
  | string {s t : Text} (hstring : WritesString s t) : Writes (.text s) t
  | list {items : List (Data × Text)} {s : Text} (hitems : ∀ i ∈ items, Writes i.1 i.2)
      (hs : Enclosed '[' ']' (items.map (·.2)) s) : Writes (.list (items.map (·.1))) s
  | table {members : List Member} {s : Text}
      (hnames : ∀ m ∈ members, WritesString m.name m.nameText)
      (hvalues : ∀ m ∈ members, Writes m.value m.valueText)
      (hspaces : ∀ m ∈ members, AllSpace m.before ∧ AllSpace m.after)
      (hdistinct : (members.map (·.name)).Nodup)
      (hs : Enclosed '\x7b' '\x7d' (members.map Member.text) s) :
      Writes (.table (members.map Member.entry)) s

/-! ## White space -/

theorem skipSpace_cons {c : Char} (hc : isSpace c = false) (s : Text) :
    skipSpace (c :: s) = c :: s := by
  simp [skipSpace, hc]

theorem skipSpace_append {w : Text} (hw : AllSpace w) (s : Text) :
    skipSpace (w ++ s) = skipSpace s :=
  List.dropWhile_append_of_pos hw

theorem skipSpace_of_allSpace {w : Text} (hw : AllSpace w) : skipSpace w = [] := by
  rw [← List.append_nil w, skipSpace_append hw]
  rfl

/-- Nothing that a numeral could go on with. -/
def EndsNumeral (s : Text) : Prop := ∀ c ∈ s.head?, Numeral.isNumeralChar c = false

theorem endsNumeral_nil : EndsNumeral [] := fun _ hc => nomatch hc

theorem isNumeralChar_of_isSpace {c : Char} (hc : isSpace c = true) :
    Numeral.isNumeralChar c = false := by
  simp only [isSpace, Bool.or_eq_true, beq_iff_eq] at hc
  rcases hc with ((rfl | rfl) | rfl) | rfl <;> rfl

theorem EndsNumeral.append {w s : Text} (hs : EndsNumeral s) (hw : AllSpace w) :
    EndsNumeral (w ++ s) := by
  cases w with
  | nil => exact hs
  | cons c w =>
    intro d hd
    obtain rfl := Option.some.inj hd
    exact isNumeralChar_of_isSpace (hw c (List.mem_cons_self ..))

theorem endsNumeral_cons {c : Char} (hc : Numeral.isNumeralChar c = false) (s : Text) :
    EndsNumeral (c :: s) := fun _ hd => Option.some.inj hd ▸ hc

theorem EndsNumeral.not_digit {s : Text} (hs : EndsNumeral s) :
    ∀ c ∈ s.head?, isAsciiDigit c = false := fun c hc =>
  Bool.eq_false_iff.mpr fun hdigit =>
    Bool.eq_false_iff.mp (hs c hc) (Numeral.isNumeralChar_of_isAsciiDigit hdigit)

/-! ## Strings -/

theorem takeUnit?_append {digits rest : Text} (hdigits : digits.length = 4) (hrest : rest ≠ []) :
    takeUnit? (digits ++ rest) = (Text.hexNumber? digits).map (·, rest) := by
  obtain ⟨a, b, c, d, rfl⟩ := List.length_eq_four.mp hdigits
  obtain ⟨e, s, rfl⟩ := List.exists_cons_of_ne_nil hrest
  rfl

/-- What belongs to an escape is skipped. -/
theorem readString_skip (opening : Text) {skipped : Text} {n : Nat} (hn : skipped.length = n)
    (rest : Text) : readString opening n (skipped ++ rest) = readString opening 0 rest := by
  induction skipped generalizing n with
  | nil => subst hn; rfl
  | cons c s ih =>
    subst hn
    rw [List.length_cons, List.cons_append, readString]
    exact ih rfl

theorem ofCode_of_not {n : Nat} (h : ¬(0xd800 ≤ n ∧ n < 0xe000)) : ofCode n = Char.ofNat n := by
  have hn : isSurrogate n = false := by
    rw [Bool.eq_false_iff, isSurrogate, Ne, Bool.and_eq_true, decide_eq_true_eq,
      decide_eq_true_eq]
    exact h
  rw [ofCode, hn, if_neg Bool.false_ne_true]

/-- No character is half a surrogate pair. -/
theorem ofCode_toNat (c : Char) : ofCode c.toNat = c := by
  rw [ofCode_of_not, Char.ofNat_toNat]
  have hvalid : c.toNat < 0xd800 ∨ 0xdfff < c.toNat ∧ c.toNat < 0x110000 := c.valid
  omega

theorem readString_escape (opening escape : Text) (hescape : escape ≠ []) {code : Nat}
    {rest : Text} (hread : readEscape (escape ++ rest) = .ok (code, escape.length)) {s t : Text}
    (hrest : readString opening 0 rest = .ok (s, t)) :
    readString opening 0 ('\\' :: (escape ++ rest)) = .ok (ofCode code :: s, t) := by
  have hempty : (escape ++ rest).isEmpty = false := by simp [hescape]
  rw [readString, if_neg (by decide), if_pos rfl, hempty, hread]
  simp only [Bool.false_eq_true, if_false]
  show (readString opening escape.length (escape ++ rest) >>= _) = _
  rw [readString_skip opening rfl, hrest]
  rfl

theorem readEscape_unit {digits rest : Text} {n : Nat} (hlength : digits.length = 4)
    (hnumber : Text.hexNumber? digits = some n) (hunit : ¬(0xd800 ≤ n ∧ n < 0xe000))
    (hne : rest ≠ []) :
    readEscape ('u' :: (digits ++ rest)) = .ok (n, ('u' :: digits).length) := by
  have hhigh : isHighSurrogate n = false := by
    rw [Bool.eq_false_iff, isHighSurrogate, Ne, Bool.and_eq_true, decide_eq_true_eq,
      decide_eq_true_eq]
    omega
  rw [readEscape, takeUnit?_append hlength hne, hnumber, Option.map_some]
  simp only [hhigh, Bool.false_and, Bool.false_eq_true, if_false, List.length_cons, hlength]

theorem readEscape_pair {first second rest : Text} {high low : Nat} (hfirst : first.length = 4)
    (hsecond : second.length = 4) (hnumber : Text.hexNumber? first = some high)
    (hnumber' : Text.hexNumber? second = some low) (hhigh : isHighSurrogate high = true)
    (hlow : isLowSurrogate low = true) (hne : rest ≠ []) :
    readEscape ('u' :: (first ++ '\\' :: 'u' :: (second ++ rest))) =
      .ok (ofPair high low, ('u' :: (first ++ '\\' :: 'u' :: second)).length) := by
  have htake : takeUnit? (first ++ ('\\' :: 'u' :: (second ++ rest))) =
      some (high, '\\' :: 'u' :: (second ++ rest)) := by
    rw [takeUnit?_append hfirst (List.cons_ne_nil _ _), hnumber, Option.map_some]
  have hstarts : startsUnit ('\\' :: 'u' :: (second ++ rest)) = true := by
    have hpos := List.length_pos_of_ne_nil hne
    simp only [startsUnit, List.length_append, hsecond, decide_eq_true_eq]
    omega
  rw [readEscape, htake]
  simp only [hhigh, hstarts, Bool.and_self, if_true, List.drop_succ_cons, List.drop_zero]
  rw [takeUnit?_append hsecond hne, hnumber', Option.map_some]
  simp [hlow, hfirst, hsecond]

theorem readString_char (opening : Text) {c : Char} {piece : Text} (h : WritesChar c piece)
    {rest : Text} (hne : rest ≠ []) {s t : Text}
    (hrest : readString opening 0 rest = .ok (s, t)) :
    readString opening 0 (piece ++ rest) = .ok (c :: s, t) := by
  cases h with
  | plain hcontrol hmark hslash =>
    rw [List.singleton_append, readString, if_neg hmark, if_neg hslash,
      if_neg (Nat.not_lt.mpr hcontrol), hrest]
    rfl
  | @letter letter c hletter =>
    rw [← ofCode_toNat c]
    refine readString_escape opening [letter] (by simp) ?_ hrest
    have hu : letter ≠ 'u' := by rintro rfl; cases hletter
    rw [List.singleton_append, readEscape, hletter]
    · rfl
    · exact hu
  | @unit digits n hlength hnumber hunit =>
    rw [← ofCode_of_not hunit]
    refine readString_escape opening ('u' :: digits) (by simp) ?_ hrest
    exact readEscape_unit hlength hnumber hunit hne
  | @pair first second high low hfirst hsecond hnumber hnumber' hhigh hlow =>
    have hpast : ¬(0xd800 ≤ ofPair high low ∧ ofPair high low < 0xe000) := by
      unfold ofPair
      omega
    rw [← ofCode_of_not hpast]
    refine readString_escape opening ('u' :: (first ++ '\\' :: 'u' :: second)) (by simp) ?_ hrest
    simp only [List.cons_append, List.append_assoc]
    exact readEscape_pair hfirst hsecond hnumber hnumber' hhigh hlow hne

/-- The characters of a string up to its closing mark. -/
theorem readString_pieces (opening : Text) {s : Text} {pieces : List Text}
    (h : List.Forall₂ WritesChar s pieces) (rest : Text) :
    readString opening 0 (pieces.flatten ++ '"' :: rest) = .ok (s, rest) := by
  induction h with
  | nil => rw [List.flatten_nil, List.nil_append, readString, if_pos rfl]
  | cons hpiece _ ih =>
    rw [List.flatten_cons, List.append_assoc]
    exact readString_char opening hpiece (by simp) ih

/-- A string is read after its opening mark. -/
theorem readString_of_writes {s t : Text} (h : WritesString s t) :
    ∃ body, t = '"' :: body ∧
      ∀ opening rest, readString opening 0 (body ++ rest) = .ok (s, rest) := by
  obtain ⟨pieces, hpieces, rfl⟩ := h
  refine ⟨_, rfl, fun opening rest => ?_⟩
  rw [List.append_assoc]
  exact readString_pieces opening hpieces rest

/-! ## Numbers -/

theorem takeWhole?_ofNat (n : Nat) {rest : Text} (hrest : ∀ c ∈ rest.head?, isAsciiDigit c = false) :
    takeWhole? (Text.ofNat n ++ rest) = some (Text.ofNat n, rest) := by
  rcases Nat.eq_zero_or_pos n with rfl | hn
  · rfl
  · have hdigits : ∀ c ∈ Text.ofNat n, isAsciiDigit c = true :=
      fun c hc => Text.isAsciiDigit_of_mem_ofNat hc
    have htake := Numeral.takeDigits_append hdigits hrest
    obtain ⟨c, cs, hcs⟩ := List.exists_cons_of_ne_nil (Text.ofNat_ne_nil n)
    have hc : c ≠ '0' := by
      rintro rfl
      exact Text.head?_ofNat_ne hn.ne' (by rw [hcs]; rfl)
    have hdigit : isAsciiDigit c = true := hdigits c (by simp [hcs])
    rw [hcs] at htake ⊢
    rw [List.cons_append] at htake ⊢
    unfold takeWhole?
    split
    · rename_i heq
      exact absurd (List.cons.inj heq).1 hc
    · rename_i heq
      obtain ⟨rfl, rfl⟩ := List.cons.inj heq
      rw [if_pos hdigit]
      exact congrArg some htake
    · rename_i heq
      cases heq

theorem takeFraction?_pointed {fraction rest : Text}
    (hdigits : ∀ c ∈ fraction, isAsciiDigit c = true) (hne : fraction ≠ [])
    (hrest : ∀ c ∈ rest.head?, isAsciiDigit c = false) :
    takeFraction? (pointed fraction ++ rest) = some (fraction, rest) := by
  have htake := Numeral.takeDigits_append hdigits hrest
  obtain ⟨c, cs, rfl⟩ := List.exists_cons_of_ne_nil hne
  show takeFraction? ('.' :: c :: (cs ++ rest)) = _
  rw [takeFraction?, if_pos (hdigits c (List.mem_cons_self ..))]
  exact congrArg some htake

theorem takeFraction?_eq_none {rest : Text} (hrest : ∀ c ∈ rest.head?, c ≠ '.') :
    takeFraction? rest = none := by
  unfold takeFraction?
  split
  · exact absurd rfl (hrest '.' rfl)
  · rfl

theorem takeSign_append {s : Text} (hs : s ≠ []) (rest : Text) :
    Numeral.takeSign (s ++ rest) = ((Numeral.takeSign s).1, (Numeral.takeSign s).2 ++ rest) := by
  obtain ⟨c, cs, rfl⟩ := List.exists_cons_of_ne_nil hs
  by_cases hminus : c = '-'
  · subst hminus; rfl
  · by_cases hplus : c = '+'
    · subst hplus; rfl
    · simp [Numeral.takeSign, hminus, hplus]

theorem takeExponent?_append {tail rest : Text} {e : Int} (htail : Numeral.exponent? tail = some e)
    (hne : tail ≠ []) (hrest : ∀ c ∈ rest.head?, isAsciiDigit c = false) :
    takeExponent? (tail ++ rest) = some (e, rest) := by
  obtain ⟨c, s, rfl⟩ := List.exists_cons_of_ne_nil hne
  obtain ⟨hmark, negative, digits, hsign, hdigits, hall, rfl⟩ := Numeral.exponent?_eq_some htail
  have hs : s ≠ [] := by
    rintro rfl
    cases hsign
    exact hdigits rfl
  have htake : (digits ++ rest).span isAsciiDigit = (digits, rest) :=
    Numeral.takeDigits_append hall hrest
  rw [List.cons_append, takeExponent?, if_pos hmark, takeSign_append hs, hsign]
  dsimp only
  rw [htake]
  obtain ⟨d, ds, rfl⟩ := List.exists_cons_of_ne_nil hdigits
  rfl

theorem takeExponent?_eq_none {rest : Text} (hrest : EndsNumeral rest) :
    takeExponent? rest = none := by
  unfold takeExponent?
  split
  · rename_i c s
    have hc := hrest c rfl
    rw [if_neg]
    rintro (rfl | rfl) <;> cases hc
  · rfl

/-- What is read of a number after its sign and its whole part. -/
def readParts (negative : Bool) (whole t : Text) : Except Fault (Data × Text) :=
  let fraction := takeFraction? t
  let t := (fraction.map (·.2)).getD t
  let exponent := takeExponent? t
  let t := (exponent.map (·.2)).getD t
  match fraction, exponent with
  | none, none =>
    if DigitLimit.most < whole.length then .error (.tooManyDigits whole.length)
    else
      let n := natOfDigits whole
      .ok (.integer (if negative then -(n : Int) else n), t)
  | _, _ =>
    let numeral : Numeral :=
      ⟨negative, whole, (fraction.map (·.1)).getD [], (exponent.map (·.1)).getD 0⟩
    .ok (.real numeral.value, t)

theorem readNumber_signed (negative : Bool) (n : Nat) {t : Text}
    (ht : ∀ c ∈ t.head?, isAsciiDigit c = false) :
    readNumber (Binary64.signed negative (Text.ofNat n ++ t)) =
      readParts negative (Text.ofNat n) t := by
  have htake := takeWhole?_ofNat n ht
  cases negative with
  | true =>
    show readNumber ('-' :: (Text.ofNat n ++ t)) = _
    rw [readNumber]
    dsimp only
    rw [htake]
    rfl
  | false =>
    obtain ⟨c, cs, hcs⟩ := List.exists_cons_of_ne_nil (Text.ofNat_ne_nil n)
    have hc : c ≠ '-' := by
      rintro rfl
      have hminus : '-' ∈ Text.ofNat n := hcs ▸ List.mem_cons_self ..
      exact absurd (Text.isAsciiDigit_of_mem_ofNat hminus) (by decide)
    rw [Binary64.signed, if_neg Bool.false_ne_true]
    unfold readNumber
    split
    rename_i negative' u hsplit
    split at hsplit
    · rename_i heq
      rw [hcs] at heq
      exact absurd (List.cons.inj heq).1 hc
    · obtain ⟨rfl, rfl⟩ := Prod.mk.inj hsplit
      rw [htake]
      rfl

theorem signed_append (negative : Bool) (s t : Text) :
    Binary64.signed negative s ++ t = Binary64.signed negative (s ++ t) := by
  cases negative <;> rfl

theorem readParts_integer (negative : Bool) {n : Nat} {rest : Text}
    (hn : (Text.ofNat n).length ≤ DigitLimit.most) (hrest : EndsNumeral rest) :
    readParts negative (Text.ofNat n) rest =
      .ok (.integer (if negative then -(n : Int) else n), rest) := by
  have hpoint : ∀ c ∈ rest.head?, c ≠ '.' := fun c hc heq => by
    subst heq
    exact absurd (hrest '.' hc) (by decide)
  unfold readParts
  rw [takeFraction?_eq_none hpoint]
  simp only [Option.map_none, Option.getD_none, takeExponent?_eq_none hrest,
    if_neg hn.not_gt, Text.natOfDigits_ofNat]

/-- What stands behind the digits of a number neither goes on with them
nor starts a fraction. -/
theorem head?_tail_append {tail rest : Text} {e : Int} (htail : Numeral.exponent? tail = some e)
    (hrest : EndsNumeral rest) :
    ∀ c ∈ (tail ++ rest).head?, isAsciiDigit c = false ∧ c ≠ '.' := by
  intro c hc
  cases tail with
  | nil =>
    refine ⟨hrest.not_digit c hc, ?_⟩
    rintro rfl
    exact absurd (hrest '.' hc) (by decide)
  | cons d tail =>
    obtain rfl := Option.some.inj hc
    obtain ⟨rfl | rfl, -⟩ := Numeral.exponent?_eq_some htail <;> decide

theorem readParts_real (negative : Bool) (whole : Text) {fraction tail rest : Text} {e : Int}
    (hdigits : ∀ c ∈ fraction, isAsciiDigit c = true) (htail : Numeral.exponent? tail = some e)
    (hreal : fraction ≠ [] ∨ tail ≠ []) (hrest : EndsNumeral rest) :
    readParts negative whole (pointed fraction ++ (tail ++ rest)) =
      .ok (.real (Numeral.value ⟨negative, whole, fraction, e⟩), rest) := by
  have hhead := head?_tail_append htail hrest
  have hexponent : tail = [] ∧ e = 0 ∨ takeExponent? (tail ++ rest) = some (e, rest) := by
    by_cases hne : tail = []
    · subst hne
      exact .inl ⟨rfl, (Option.some.inj htail).symm⟩
    · exact .inr (takeExponent?_append htail hne hrest.not_digit)
  unfold readParts
  by_cases hne : fraction = []
  · subst hne
    have hnone : takeFraction? (pointed [] ++ (tail ++ rest)) = none :=
      takeFraction?_eq_none fun c hc => (hhead c hc).2
    obtain ⟨rfl, -⟩ | hexponent := hexponent
    · simp at hreal
    · rw [hnone]
      simp [pointed, hexponent]
  · rw [takeFraction?_pointed hdigits hne fun c hc => (hhead c hc).1]
    obtain ⟨rfl, rfl⟩ | hexponent := hexponent
    · simp [takeExponent?_eq_none hrest]
    · simp [hexponent]

theorem readNumber_of_writes {d : Data} {s rest : Text} (h : WritesNumber d s) {levels : Nat}
    (hwithin : d.Within levels) (hrest : EndsNumeral rest) :
    readNumber (s ++ rest) = .ok (d, rest) := by
  cases h with
  | integer negative n =>
    have hlength : (Text.ofNat n).length ≤ DigitLimit.most := by
      have hdigits := hwithin.2
      cases negative <;> simpa [Data.integerDigits] using hdigits
    rw [signed_append, readNumber_signed negative n hrest.not_digit]
    exact readParts_integer negative hlength hrest
  | @real negative n fraction tail _ hdigits htail hreal =>
    have hhead : ∀ c ∈ (pointed fraction ++ (tail ++ rest)).head?, isAsciiDigit c = false := by
      intro c hc
      cases fraction with
      | nil => exact (head?_tail_append htail hrest c hc).1
      | cons d ds => exact Option.some.inj hc ▸ rfl
    rw [signed_append, List.append_assoc, List.append_assoc, readNumber_signed negative n hhead]
    exact readParts_real negative _ hdigits htail hreal hrest

/-! ## The first character of a value -/

/-- The text starts with a character that neither is white space nor
closes a bracket nor marks the order of bytes. -/
def Opens (s : Text) : Prop :=
  ∃ c t, s = c :: t ∧ isSpace c = false ∧ c ≠ ']' ∧ c ≠ '\x7d' ∧ c ≠ '\ufeff'

theorem Opens.append {s : Text} (hs : Opens s) (t : Text) : Opens (s ++ t) := by
  obtain ⟨c, u, rfl, hc⟩ := hs
  exact ⟨c, u ++ t, rfl, hc⟩

theorem Opens.ne_nil {s : Text} (hs : Opens s) : s ≠ [] := by
  obtain ⟨c, t, rfl, -⟩ := hs
  exact List.cons_ne_nil c t

theorem skipSpace_of_opens {w s : Text} (hw : AllSpace w) (hs : Opens s) :
    skipSpace (w ++ s) = s := by
  obtain ⟨c, t, rfl, hc, -⟩ := hs
  rw [skipSpace_append hw, skipSpace_cons hc]

theorem exists_digit_ofNat (n : Nat) : ∃ c cs, Text.ofNat n = c :: cs ∧ isAsciiDigit c = true := by
  obtain ⟨c, cs, hcs⟩ := List.exists_cons_of_ne_nil (Text.ofNat_ne_nil n)
  exact ⟨c, cs, hcs, Text.isAsciiDigit_of_mem_ofNat (hcs ▸ List.mem_cons_self ..)⟩

theorem ne_of_isAsciiDigit {c d : Char} (hc : isAsciiDigit c = true)
    (hd : isAsciiDigit d = false) : c ≠ d := by
  rintro rfl
  exact Bool.false_ne_true (hd.symm.trans hc)

theorem opens_signed (negative : Bool) (n : Nat) (t : Text) :
    Opens (Binary64.signed negative (Text.ofNat n ++ t)) := by
  cases negative with
  | true => exact ⟨'-', _, rfl, by decide⟩
  | false =>
    obtain ⟨c, cs, hcs, hc⟩ := exists_digit_ofNat n
    refine ⟨c, cs ++ t, by rw [hcs]; rfl, ?_, ne_of_isAsciiDigit hc rfl,
      ne_of_isAsciiDigit hc rfl, ne_of_isAsciiDigit hc rfl⟩
    rw [Bool.eq_false_iff]
    intro hspace
    exact Bool.false_ne_true ((isNumeralChar_of_isSpace hspace).symm.trans
      (Numeral.isNumeralChar_of_isAsciiDigit hc))

theorem WritesNumber.exists_signed {d : Data} {s : Text} (h : WritesNumber d s) :
    ∃ negative n t, s = Binary64.signed negative (Text.ofNat n ++ t) := by
  cases h with
  | integer negative n => exact ⟨negative, n, [], by rw [List.append_nil]⟩
  | real negative n => exact ⟨negative, n, _, rfl⟩

theorem WritesString.exists_mark {s t : Text} (h : WritesString s t) : ∃ body, t = '"' :: body := by
  obtain ⟨pieces, -, rfl⟩ := h
  exact ⟨_, rfl⟩

theorem Writes.opens {d : Data} {s : Text} (h : Writes d s) : Opens s := by
  cases h with
  | nothing => exact ⟨'n', _, rfl, by decide⟩
  | yes => exact ⟨'t', _, rfl, by decide⟩
  | no => exact ⟨'f', _, rfl, by decide⟩
  | number hnumber =>
    obtain ⟨negative, n, t, rfl⟩ := hnumber.exists_signed
    exact opens_signed negative n t
  | string hstring =>
    obtain ⟨body, rfl⟩ := hstring.exists_mark
    exact ⟨'"', body, rfl, by decide⟩
  | list _ hs =>
    obtain ⟨inside, rfl, -⟩ := hs
    exact ⟨'[', _, rfl, by decide⟩
  | table _ _ _ _ hs =>
    obtain ⟨inside, rfl, -⟩ := hs
    exact ⟨'\x7b', _, rfl, by decide⟩

/-! ## Values without parts -/

theorem readWord?_signed (negative : Bool) (n : Nat) (t : Text) :
    readWord? (Binary64.signed negative (Text.ofNat n ++ t)) = none := by
  obtain ⟨c, cs, hcs, hc⟩ := exists_digit_ofNat n
  have hne : ∀ d, isAsciiDigit d = false → d ≠ c := fun d hd => (ne_of_isAsciiDigit hc hd).symm
  rw [hcs]
  cases negative <;>
    simp [readWord?, words, Binary64.signed, List.isPrefixOf?, hne 'n' rfl, hne 't' rfl,
      hne 'f' rfl, hne 'N' rfl, hne 'I' rfl, hne '-' rfl]

section
variable {room : NestingLimit.Room} {levels : Nat} (hroom : room.Allows levels)
include hroom

theorem readValue_signed (fuel : Nat) (negative : Bool) (n : Nat) (t : Text) :
    readValue room (fuel + 1) levels (Binary64.signed negative (Text.ofNat n ++ t)) =
      readNumber (Binary64.signed negative (Text.ofNat n ++ t)) := by
  have hword := readWord?_signed negative n t
  have hhead : ∀ c u, Binary64.signed negative (Text.ofNat n ++ t) = c :: u →
      c ≠ '"' ∧ c ≠ '[' ∧ c ≠ '\x7b' := by
    intro c u hcu
    cases negative with
    | true =>
      obtain rfl := (List.cons.inj hcu).1
      decide
    | false =>
      obtain ⟨d, ds, hds, hd⟩ := exists_digit_ofNat n
      rw [Binary64.signed, if_neg Bool.false_ne_true, hds] at hcu
      obtain rfl := (List.cons.inj hcu).1
      exact ⟨ne_of_isAsciiDigit hd rfl, ne_of_isAsciiDigit hd rfl, ne_of_isAsciiDigit hd rfl⟩
  unfold readValue
  rw [if_pos (hroom _ _ (Nat.le_refl _))]
  split
  · rename_i u heq
    exact absurd rfl (hhead _ _ heq).1
  · rename_i u heq
    exact absurd rfl (hhead _ _ heq).2.1
  · rename_i u heq
    exact absurd rfl (hhead _ _ heq).2.2
  · rw [hword]

theorem readValue_of_string {s t : Text} (h : WritesString s t) (fuel : Nat) (rest : Text) :
    readValue room (fuel + 1) levels (t ++ rest) = .ok (.text s, rest) := by
  obtain ⟨body, rfl, hread⟩ := readString_of_writes h
  rw [List.cons_append, readValue, if_pos (hroom _ _ (Nat.le_refl _)), hread]
  rfl

end

/-! ## Lists -/

/-- The reader takes a text at the front of what follows for a value. -/
def ReadsAs (room : NestingLimit.Room) (levels : Nat) (d : Data) (s : Text) : Prop :=
  ∀ fuel rest, 2 * s.length ≤ fuel → EndsNumeral rest →
    readValue room fuel levels (s ++ rest) = .ok (d, rest)

/-- White space and something that no numeral goes on with. -/
theorem endsNumeral_space_cons {w : Text} (hw : AllSpace w) {c : Char}
    (hc : Numeral.isNumeralChar c = false) (s : Text) : EndsNumeral (w ++ c :: s) :=
  (endsNumeral_cons hc s).append hw

/-- The first of separated parts comes first, and after it either white
space alone or a comma and the other parts. -/
theorem Separated.first {part : Text} {parts : List Text} {inside : Text}
    (h : Separated (part :: parts) inside) (hopen : Opens part) (t : Text) :
    ∃ w u, skipSpace (inside ++ t) = part ++ (w ++ u) ∧ AllSpace w ∧
      part.length ≤ inside.length ∧
      (parts = [] ∧ u = t ∨
        ∃ later, Separated parts later ∧ u = ',' :: (later ++ t) ∧ later.length < inside.length) := by
  cases h with
  | @last before _ after hbefore hafter =>
    refine ⟨after, t, ?_, hafter, ?_, .inl ⟨rfl, rfl⟩⟩
    · rw [List.append_assoc, List.append_assoc, skipSpace_of_opens hbefore (hopen.append _)]
    · simp only [List.length_append]
      omega
  | @cons before _ after _ later hbefore hafter hlater =>
    refine ⟨after, ',' :: (later ++ t), ?_, hafter, ?_, .inr ⟨later, hlater, rfl, ?_⟩⟩
    · rw [List.append_assoc, List.append_assoc, List.append_assoc, List.cons_append,
        skipSpace_of_opens hbefore (hopen.append _)]
    all_goals
      simp only [List.length_append, List.length_cons]
      omega

/-- The items of a list up to its bracket. -/
theorem readItems_of_separated {room : NestingLimit.Room} {levels : Nat}
    {items : List (Data × Text)} {inside : Text}
    (hs : Separated (items.map (·.2)) inside) (hopens : ∀ i ∈ items, Opens i.2)
    (hitems : ∀ i ∈ items, ReadsAs room levels i.1 i.2) {fuel : Nat}
    (hfuel : 2 * (inside.length + 1) ≤ fuel) (rest : Text) :
    readItems room fuel levels (skipSpace (inside ++ ']' :: rest)) =
      .ok (items.map (·.1), rest) := by
  induction items generalizing inside fuel with
  | nil => cases hs
  | cons i is ih =>
    obtain ⟨fuel, rfl⟩ : ∃ n, fuel = n + 1 := ⟨fuel - 1, by omega⟩
    obtain ⟨hopen, hopens⟩ := List.forall_mem_cons.mp hopens
    obtain ⟨hread, hitems⟩ := List.forall_mem_cons.mp hitems
    rw [List.map_cons] at hs
    obtain ⟨w, u, hfront, hw, hpart, ⟨hnil, rfl⟩ | ⟨later, hlater, rfl, hshort⟩⟩ :=
      hs.first hopen (']' :: rest)
    · obtain rfl := List.map_eq_nil_iff.mp hnil
      rw [hfront, readItems, hread fuel _ (by omega) (endsNumeral_space_cons hw rfl rest)]
      dsimp only [bind, Except.bind]
      rw [skipSpace_append hw, skipSpace_cons rfl]
      rfl
    · rw [hfront, readItems, hread fuel _ (by omega) (endsNumeral_space_cons hw rfl _)]
      dsimp only [bind, Except.bind]
      rw [skipSpace_append hw, skipSpace_cons rfl]
      show (readItems room fuel levels (skipSpace (later ++ ']' :: rest)) >>= fun r =>
        pure (i.1 :: r.1, r.2)) = _
      rw [ih hlater hopens hitems (by omega)]
      rfl

section
variable {room : NestingLimit.Room} {levels : Nat} (hroom : room.Allows levels)
include hroom

theorem readValue_emptyList (fuel : Nat) {t rest : Text} (h : skipSpace t = ']' :: rest) :
    readValue room (fuel + 1) levels ('[' :: t) = .ok (.list [], rest) := by
  unfold readValue
  simp only [hroom _ _ (Nat.le_refl _), if_true, h]

theorem readValue_items (fuel : Nat) {t : Text} (h : Opens (skipSpace t)) :
    readValue room (fuel + 1) levels ('[' :: t) =
      (readItems room fuel (levels + 1) (skipSpace t)).map fun r => (.list r.1, r.2) := by
  obtain ⟨c, u, hcu, -, hc, -⟩ := h
  unfold readValue
  simp only [hroom _ _ (Nat.le_refl _), if_true, hcu]
  split
  · rename_i heq
    exact absurd (List.cons.inj heq).1 hc
  · rfl

end

/-- Where parts stand, one of them is what comes first. -/
theorem Separated.opens {parts : List Text} {inside : Text} (h : Separated parts inside)
    (hparts : ∀ p ∈ parts, Opens p) (t : Text) : Opens (skipSpace (inside ++ t)) := by
  cases parts with
  | nil => cases h
  | cons part parts =>
    have hopen := hparts part (List.mem_cons_self ..)
    obtain ⟨w, u, hfront, -⟩ := h.first hopen t
    rw [hfront]
    exact hopen.append _

theorem readsAs_list {room : NestingLimit.Room} {levels : Nat} (hroom : room.Allows levels)
    {items : List (Data × Text)} {s : Text}
    (hs : Enclosed '[' ']' (items.map (·.2)) s) (hopens : ∀ i ∈ items, Opens i.2)
    (hitems : ∀ i ∈ items, ReadsAs room (levels + 1) i.1 i.2) :
    ReadsAs room levels (.list (items.map (·.1))) s := by
  intro fuel rest hfuel _
  obtain ⟨inside, rfl, hinside⟩ := hs
  simp only [List.length_cons, List.length_append, List.length_nil] at hfuel
  obtain ⟨fuel, rfl⟩ : ∃ n, fuel = n + 1 := ⟨fuel - 1, by omega⟩
  rw [List.cons_append, List.append_assoc, List.singleton_append]
  obtain ⟨hnil, hspace⟩ | hseparated := hinside
  · obtain rfl := List.map_eq_nil_iff.mp hnil
    exact readValue_emptyList hroom fuel (by rw [skipSpace_append hspace, skipSpace_cons rfl])
  · have hopen := hseparated.opens (List.forall_mem_map.mpr hopens) (']' :: rest)
    rw [readValue_items hroom fuel hopen,
      readItems_of_separated hseparated hopens hitems (by omega) rest]
    rfl

/-! ## Tables -/

/-- One entry of a table, and what comes after it. -/
theorem readEntries_member (fuel : Nat) {room : NestingLimit.Room} {levels : Nat}
    (entries : Table) {m : Member}
    (hname : WritesString m.name m.nameText) (hbefore : AllSpace m.before)
    (hafter : AllSpace m.after) (hopen : Opens m.valueText)
    (hvalue : ReadsAs room levels m.value m.valueText) (hfuel : 2 * m.valueText.length ≤ fuel)
    {t : Text} (ht : EndsNumeral t) :
    readEntries room (fuel + 1) levels entries (m.text ++ t) =
      match skipSpace t with
      | '\x7d' :: rest => .ok (entries.set m.name m.value, rest)
      | ',' :: rest => readEntries room fuel levels (entries.set m.name m.value) (skipSpace rest)
      | rest => stop .commaExpected rest := by
  obtain ⟨body, hbody, hread⟩ := readString_of_writes hname
  rw [Member.text, hbody]
  simp only [List.cons_append, List.append_assoc]
  rw [readEntries, hread]
  dsimp only [bind, Except.bind]
  rw [skipSpace_append hbefore, skipSpace_cons rfl]
  show (readValue room fuel levels (skipSpace (m.after ++ (m.valueText ++ t))) >>= _) = _
  rw [skipSpace_of_opens hafter (hopen.append t), hvalue fuel t hfuel ht]
  rfl

/-- The parts of an entry are read for what they write. -/
structure Member.IsRead (room : NestingLimit.Room) (levels : Nat) (m : Member) : Prop where
  name : WritesString m.name m.nameText
  before : AllSpace m.before
  after : AllSpace m.after
  opens : Opens m.valueText
  value : ReadsAs room levels m.value m.valueText

theorem Member.IsRead.opens_text {room : NestingLimit.Room} {levels : Nat} {m : Member}
    (h : m.IsRead room levels) : Opens m.text := by
  obtain ⟨body, hbody⟩ := h.name.exists_mark
  exact ⟨'"', _, by rw [Member.text, hbody]; rfl, by decide⟩

/-- The entries of a table up to its brace. -/
theorem readEntries_of_separated {room : NestingLimit.Room} {levels : Nat}
    {members : List Member} {inside : Text} (hs : Separated (members.map Member.text) inside)
    (hmembers : ∀ m ∈ members, m.IsRead room levels)
    {entries : Table} (hdistinct : (entries.names ++ members.map (·.name)).Nodup) {fuel : Nat}
    (hfuel : 2 * (inside.length + 1) ≤ fuel) (rest : Text) :
    readEntries room fuel levels entries (skipSpace (inside ++ '\x7d' :: rest)) =
      .ok (entries ++ members.map Member.entry, rest) := by
  induction members generalizing inside fuel entries with
  | nil => cases hs
  | cons m ms ih =>
    obtain ⟨fuel, rfl⟩ : ∃ n, fuel = n + 1 := ⟨fuel - 1, by omega⟩
    obtain ⟨hm, hmembers⟩ := List.forall_mem_cons.mp hmembers
    rw [List.map_cons] at hdistinct
    have hnew : m.name ∉ entries.names := fun hmem =>
      List.disjoint_of_nodup_append hdistinct hmem (List.mem_cons_self ..)
    have hset := Table.set_of_not_mem hnew m.value
    have hlength : m.valueText.length ≤ m.text.length := by
      simp only [Member.text, List.length_append, List.length_cons]
      omega
    obtain ⟨w, u, hfront, hw, hpart, ⟨hnil, rfl⟩ | ⟨later, hlater, rfl, hshort⟩⟩ :=
      hs.first hm.opens_text ('\x7d' :: rest)
    · obtain rfl := List.map_eq_nil_iff.mp hnil
      rw [hfront, readEntries_member fuel entries hm.name hm.before hm.after hm.opens hm.value
          (by omega) (endsNumeral_space_cons hw rfl rest),
        skipSpace_append hw, skipSpace_cons rfl, hset]
      rfl
    · have hnames : (entries.set m.name m.value).names ++ ms.map (·.name) =
          entries.names ++ m.name :: ms.map (·.name) := by
        rw [hset, Table.names, List.map_append, List.append_assoc]
        rfl
      rw [hfront, readEntries_member fuel entries hm.name hm.before hm.after hm.opens hm.value
          (by omega) (endsNumeral_space_cons hw rfl _),
        skipSpace_append hw, skipSpace_cons rfl]
      show readEntries room fuel levels (entries.set m.name m.value) _ = _
      rw [ih hlater hmembers (hnames ▸ hdistinct) (by omega), hset, List.append_assoc]
      rfl

section
variable {room : NestingLimit.Room} {levels : Nat} (hroom : room.Allows levels)
include hroom

theorem readValue_emptyTable (fuel : Nat) {t rest : Text} (h : skipSpace t = '\x7d' :: rest) :
    readValue room (fuel + 1) levels ('\x7b' :: t) = .ok (.table [], rest) := by
  unfold readValue
  simp only [hroom _ _ (Nat.le_refl _), if_true, h]

theorem readValue_entries (fuel : Nat) {t : Text} (h : Opens (skipSpace t)) :
    readValue room (fuel + 1) levels ('\x7b' :: t) =
      (readEntries room fuel (levels + 1) [] (skipSpace t)).map fun r => (.table r.1, r.2) := by
  obtain ⟨c, u, hcu, -, -, hc, -⟩ := h
  unfold readValue
  simp only [hroom _ _ (Nat.le_refl _), if_true, hcu]
  split
  · rename_i heq
    exact absurd (List.cons.inj heq).1 hc
  · rfl

end

theorem readsAs_table {room : NestingLimit.Room} {levels : Nat} (hroom : room.Allows levels)
    {members : List Member} {s : Text} (hs : Enclosed '\x7b' '\x7d' (members.map Member.text) s)
    (hmembers : ∀ m ∈ members, m.IsRead room (levels + 1))
    (hdistinct : (members.map (·.name)).Nodup) :
    ReadsAs room levels (.table (members.map Member.entry)) s := by
  intro fuel rest hfuel _
  obtain ⟨inside, rfl, hinside⟩ := hs
  simp only [List.length_cons, List.length_append, List.length_nil] at hfuel
  obtain ⟨fuel, rfl⟩ : ∃ n, fuel = n + 1 := ⟨fuel - 1, by omega⟩
  rw [List.cons_append, List.append_assoc, List.singleton_append]
  obtain ⟨hnil, hspace⟩ | hseparated := hinside
  · obtain rfl := List.map_eq_nil_iff.mp hnil
    exact readValue_emptyTable hroom fuel (by rw [skipSpace_append hspace, skipSpace_cons rfl])
  · have hopen := hseparated.opens
      (List.forall_mem_map.mpr fun m hm => (hmembers m hm).opens_text) ('\x7d' :: rest)
    rw [readValue_entries hroom fuel hopen,
      readEntries_of_separated hseparated hmembers (by simpa [Table.names] using hdistinct)
        (by omega) rest]
    rfl

/-! ## Values -/

/-- A value without parts takes one step. -/
theorem readsAs_of_step {room : NestingLimit.Room} {levels : Nat} {d : Data} {s : Text}
    (hs : Opens s) (h : ∀ fuel rest, EndsNumeral rest →
      readValue room (fuel + 1) levels (s ++ rest) = .ok (d, rest)) :
    ReadsAs room levels d s := by
  intro fuel rest hfuel hrest
  have hpos := List.length_pos_of_ne_nil hs.ne_nil
  obtain ⟨fuel, rfl⟩ : ∃ n, fuel = n + 1 := ⟨fuel - 1, by omega⟩
  exact h fuel rest hrest

/-- A standard text is read for what it writes where there are levels
enough left. -/
theorem readsAs_of_writes {room : NestingLimit.Room} {most : Nat} (hroom : room.Allows most)
    {d : Data} {s : Text} (h : Writes d s) {levels left : Nat} (hleft : levels + left ≤ most)
    (hwithin : d.Within left) : ReadsAs room levels d s := by
  have hword : ∀ {levels left}, levels + left ≤ most → ∀ t, room levels t = true :=
    fun hleft t => hroom _ t (by omega)
  induction h generalizing levels left with
  | nothing =>
    exact readsAs_of_step Writes.nothing.opens fun _ _ _ => if_pos (hword hleft _)
  | yes => exact readsAs_of_step Writes.yes.opens fun _ _ _ => if_pos (hword hleft _)
  | no => exact readsAs_of_step Writes.no.opens fun _ _ _ => if_pos (hword hleft _)
  | number hnumber =>
    refine readsAs_of_step (Writes.number hnumber).opens fun fuel rest hrest => ?_
    obtain ⟨negative, n, t, hsigned⟩ := hnumber.exists_signed
    rw [← readNumber_of_writes hnumber hwithin hrest, hsigned, signed_append, List.append_assoc]
    exact readValue_signed (hroom.mono (by omega)) fuel negative n (t ++ rest)
  | string hstring =>
    exact readsAs_of_step (Writes.string hstring).opens fun fuel rest _ =>
      readValue_of_string (hroom.mono (by omega)) hstring fuel rest
  | list hitems hs ih =>
    obtain ⟨left, rfl⟩ := Data.exists_eq_succ_of_list hwithin
    have hparts := Data.within_list_iff.mp hwithin
    exact readsAs_list (hroom.mono (by omega)) hs (fun i hi => (hitems i hi).opens) fun i hi =>
      ih i hi (by omega) (hparts _ (List.mem_map_of_mem hi))
  | table hnames hvalues hspaces hdistinct hs ih =>
    obtain ⟨left, rfl⟩ := Data.exists_eq_succ_of_table hwithin
    have hparts := Data.within_table_iff.mp hwithin
    refine readsAs_table (hroom.mono (by omega)) hs (fun m hm => ?_) hdistinct
    exact ⟨hnames m hm, (hspaces m hm).1, (hspaces m hm).2, (hvalues m hm).opens,
      ih m hm (by omega) (hparts _ (List.mem_map_of_mem hm))⟩

/-- **Standard texts are read.** A text of the grammar, with white space
around it, is read for what it writes, as long as that nests no deeper
and has no longer integers than can be read. -/
theorem read_of_writes {room : NestingLimit.Room} {most : Nat} (hroom : room.Allows most)
    {d : Data} {s : Text} (h : Writes d s) (hwithin : d.Within most) {before after : Text}
    (hbefore : AllSpace before) (hafter : AllSpace after) :
    read room (before ++ (s ++ after)) = .ok d := by
  have hends : EndsNumeral after := by
    rw [← List.append_nil after]
    exact endsNumeral_nil.append hafter
  have hlength : 2 * s.length ≤ 2 * (before ++ (s ++ after)).length + 2 := by
    simp only [List.length_append]
    omega
  unfold read
  split
  · rename_i t heq
    cases before with
    | nil =>
      obtain ⟨c, u, rfl, -, -, -, hc⟩ := h.opens
      exact absurd (List.cons.inj heq).1 hc
    | cons c w =>
      have hspace : isSpace c = true := hbefore c (List.mem_cons_self ..)
      rw [(List.cons.inj heq).1] at hspace
      cases hspace
  · rw [skipSpace_of_opens hbefore (h.opens.append after),
      readsAs_of_writes hroom h (Nat.zero_add most).le hwithin _ _ hlength hends]
    dsimp only [bind, Except.bind]
    rw [skipSpace_of_allSpace hafter]
    rfl

end MetricAudit.Json
