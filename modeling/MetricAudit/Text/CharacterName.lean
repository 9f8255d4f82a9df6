/-
MetricAudit.Text.CharacterName — characters by name.

Every character of Unicode 14 has a name, in capital letters, and some
have aliases. `isCharacterName` tells names and aliases from other texts.
The case of letters does not count, except in the names of Chinese
characters and of Korean syllables.

Most names are listed (`CharacterNames`); `isListed` finds a name in such
a list. Others follow a rule: the name of a Chinese character ends in its
code point, and that of a Korean syllable in the names of its sounds.
-/
import MetricAudit.Text.CharacterNames.AToB
import MetricAudit.Text.CharacterNames.CToF
import MetricAudit.Text.CharacterNames.GToL
import MetricAudit.Text.CharacterNames.MToR
import MetricAudit.Text.CharacterNames.SToZ
import MetricAudit.Text.Hexadecimal
import MetricAudit.Text.Runs

namespace MetricAudit.Text

/-! ## Listed names -/

/-- What is left of a text after a character at its front. -/
def after? (c : Char) : Text → Option Text
  | d :: s => if d = c then some s else none
  | [] => none

/-- Whether a name is in a list that is written by beginnings. What
stands in brackets, with commas between, continues what stands before
them: `A(B,C(,D))` lists `AB`, `AC` and `ACD`.

`rest` is what is left of the name after what has been read of an entry,
where the entry fits so far, and `opened` the same for the beginnings
that are open, the last one first. -/
def isListed (opened : List (Option Text)) (rest : Option Text) : Text → Bool
  | [] => rest == some []
  | c :: s =>
    if c = '(' then isListed (rest :: opened) rest s
    else if c = ',' then rest == some [] || isListed opened (opened.headD none) s
    else if c = ')' then rest == some [] || isListed opened.tail none s
    else isListed opened (rest.bind (after? c)) s

open CharacterNames in
/-- The lists of names, by the letters that the names start with. -/
def nameLists : List (Char × List String) :=
  [('A', startingWithA), ('B', startingWithB),
   ('C', startingWithC), ('D', startingWithD),
   ('E', startingWithE), ('F', startingWithF),
   ('G', startingWithG), ('H', startingWithH),
   ('I', startingWithI), ('J', startingWithJ),
   ('K', startingWithK), ('L', startingWithL),
   ('M', startingWithM), ('N', startingWithN),
   ('O', startingWithO), ('P', startingWithP),
   ('Q', startingWithQ), ('R', startingWithR),
   ('S', startingWithS), ('T', startingWithT),
   ('U', startingWithU), ('V', startingWithV),
   ('W', startingWithW), ('X', startingWithX),
   ('Y', startingWithY), ('Z', startingWithZ)]

/-- Whether a list of names, in lines, holds one. -/
def isListedIn (name : Text) (lines : List String) : Bool :=
  isListed [some name] (some name) (lines.flatMap String.toList)

/-- Whether the list for the letter that a name starts with holds it. -/
def isListedName (name : Text) : Bool :=
  nameLists.any fun (letter, lines) => name.head? == some letter && isListedIn name lines

/-! ## Names with a code point -/

/-- The beginnings of names that end in the code point of the character,
with the runs of these characters. -/
def numberedNames : List (String × List (Nat × Nat)) :=
  [("CJK COMPATIBILITY IDEOGRAPH-", [(0xf900, 0xfa6d), (0xfa70, 0xfad9), (0x2f800, 0x2fa1d)]),
   ("KHITAN SMALL SCRIPT CHARACTER-", [(0x18b00, 0x18cd5)]),
   ("NUSHU CHARACTER-", [(0x1b170, 0x1b2fb)])]

/-- Whether a text writes the code point of a character in some runs. -/
def isCodeIn (runs : List (Nat × Nat)) (digits : Text) : Bool :=
  match hexNumber? digits with
  | some n => inRuns runs (Char.ofNat n) && digits == codePoint n
  | none => false

/-- Whether a name ends in the code point of its character. -/
def isNumberedName (name : Text) : Bool :=
  numberedNames.any fun (beginning, runs) =>
    (beginning.toList.isPrefixOf? name).any (isCodeIn runs)

/-- The unified Chinese characters. -/
def unifiedRuns : List (Nat × Nat) :=
  [(0x3400, 0x4dbf), (0x4e00, 0x9fff), (0x20000, 0x2a6df), (0x2a700, 0x2b738),
   (0x2b740, 0x2b81d), (0x2b820, 0x2cea1), (0x2ceb0, 0x2ebe0), (0x30000, 0x3134a)]

/-- Whether a text writes the code point of a unified Chinese character,
in four or five digits. -/
def isUnifiedCode (digits : Text) : Bool :=
  (digits.length == 4 || digits.length == 5) && digits == digits.map Char.toUpper
    && (hexNumber? digits).any fun n => inRuns unifiedRuns (Char.ofNat n)

/-- Whether a name is that of a unified Chinese character. -/
def isUnifiedName (name : Text) : Bool :=
  (("CJK UNIFIED IDEOGRAPH-" : Text).isPrefixOf? name).any isUnifiedCode

/-! ## Korean syllables -/

/-- The sounds that a syllable starts with. -/
def leadingSounds : List String :=
  ["G", "GG", "N", "D", "DD", "R", "M", "B", "BB", "S", "SS", "", "J", "JJ", "C", "K", "T",
   "P", "H"]

/-- The sounds in the middle of a syllable. -/
def middleSounds : List String :=
  ["A", "AE", "YA", "YAE", "EO", "E", "YEO", "YE", "O", "WA", "WAE", "OE", "YO", "U", "WEO",
   "WE", "WI", "YU", "EU", "YI", "I"]

/-- The sounds that a syllable ends in. -/
def trailingSounds : List String :=
  ["", "G", "GG", "GS", "N", "NJ", "NH", "D", "L", "LG", "LM", "LB", "LS", "LT", "LP", "LH",
   "M", "B", "BS", "S", "SS", "NG", "J", "C", "K", "T", "P", "H"]

/-- Whether a text is made of sounds, one from each list. -/
def isMadeOf : List (List String) → Text → Bool
  | [], s => s.isEmpty
  | sounds :: more, s =>
    sounds.any fun sound => (sound.toList.isPrefixOf? s).any (isMadeOf more)

/-- Whether a name is that of a Korean syllable. -/
def isSyllableName (name : Text) : Bool :=
  (("HANGUL SYLLABLE " : Text).isPrefixOf? name).any
    (isMadeOf [leadingSounds, middleSounds, trailingSounds])

/-! ## All names -/

/-- Whether a text is the name of a character, or an alias. -/
def isCharacterName (name : Text) : Bool :=
  let capitals := name.map Char.toUpper
  isUnifiedName name || isSyllableName name || isNumberedName capitals
    || isListedName capitals

end MetricAudit.Text
