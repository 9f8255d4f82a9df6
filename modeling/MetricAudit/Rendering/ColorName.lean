/-
MetricAudit.Rendering.ColorName — the colors that a style can name.

A color is named `default`, by the name of one of the 256 terminal
colors, by six hexadecimal digits after `#`, by its number, or by its red,
green and blue parts. Names are in lower case.

The parts of a mixed color are numbers in digits of any script. Where one
of the three is no number at all, or too long to be read, the name is
neither a color nor something else, and cannot be used: `Fault`.
-/
import MetricAudit.Number.DigitLimit
import MetricAudit.Text.Blank
import MetricAudit.Text.DecimalDigit

namespace MetricAudit.Rendering.ColorName

/-- The names of terminal colors, set apart by spaces; of the grays those
spelt with `e`. -/
def spelling : List String :=
  ["black red green yellow blue magenta cyan white bright_black",
   "bright_red bright_green bright_yellow bright_blue bright_magenta",
   "bright_cyan bright_white grey0 navy_blue dark_blue blue3 blue1",
   "dark_green deep_sky_blue4 dodger_blue3 dodger_blue2 green4",
   "spring_green4 turquoise4 deep_sky_blue3 dodger_blue1 green3",
   "spring_green3 dark_cyan light_sea_green deep_sky_blue2",
   "deep_sky_blue1 spring_green2 cyan3 dark_turquoise turquoise2",
   "green1 spring_green1 medium_spring_green cyan2 cyan1 dark_red",
   "deep_pink4 purple4 purple3 blue_violet orange4 grey37",
   "medium_purple4 slate_blue3 royal_blue1 chartreuse4 dark_sea_green4",
   "pale_turquoise4 steel_blue steel_blue3 cornflower_blue chartreuse3",
   "cadet_blue sky_blue3 steel_blue1 pale_green3 sea_green3",
   "aquamarine3 medium_turquoise chartreuse2 sea_green2 sea_green1",
   "aquamarine1 dark_slate_gray2 dark_magenta dark_violet purple",
   "light_pink4 plum4 medium_purple3 slate_blue1 yellow4 wheat4 grey53",
   "light_slate_grey light_slate_gray medium_purple light_slate_blue",
   "dark_olive_green3 dark_sea_green light_sky_blue3 sky_blue2",
   "dark_sea_green3 dark_slate_gray3 sky_blue1 chartreuse1 light_green",
   "pale_green1 dark_slate_gray1 red3 medium_violet_red magenta3",
   "dark_orange3 indian_red hot_pink3 medium_orchid3 medium_orchid",
   "medium_purple2 dark_goldenrod light_salmon3 rosy_brown grey63",
   "medium_purple1 gold3 dark_khaki navajo_white3 grey69",
   "light_steel_blue3 light_steel_blue yellow3 dark_sea_green2",
   "light_cyan3 light_sky_blue1 green_yellow dark_olive_green2",
   "dark_sea_green1 pale_turquoise1 deep_pink3 magenta2 hot_pink2",
   "orchid medium_orchid1 orange3 light_pink3 pink3 plum3 violet",
   "light_goldenrod3 tan misty_rose3 thistle3 plum2 khaki3",
   "light_goldenrod2 light_yellow3 grey84 light_steel_blue1 yellow2",
   "dark_olive_green1 honeydew2 light_cyan1 red1 deep_pink2 deep_pink1",
   "magenta1 orange_red1 indian_red1 hot_pink dark_orange salmon1",
   "light_coral pale_violet_red1 orchid2 orchid1 orange1 sandy_brown",
   "light_salmon1 light_pink1 pink1 plum1 gold1 navajo_white1",
   "misty_rose1 thistle1 yellow1 light_goldenrod1 khaki1 wheat1",
   "cornsilk1 grey100 grey3 grey7 grey11 grey15 grey19 grey23 grey27",
   "grey30 grey35 grey39 grey42 grey46 grey50 grey54 grey58 grey62",
   "grey66 grey70 grey74 grey78 grey82 grey85 grey89 grey93"]

/-- The names of terminal colors. -/
def spelt : List Text := spelling.flatMap fun line => Text.words line.toList

/-- A name with every `gray` at its front spelt `grey`. -/
def respell : Text → Text
  | 'g' :: 'r' :: 'a' :: 'y' :: rest => 'g' :: 'r' :: 'e' :: 'y' :: rest
  | name => name

/-- A hexadecimal digit in lower case. -/
def isHexDigit (c : Char) : Bool := Text.isAsciiDigit c || ('a' ≤ c && c ≤ 'f')

/-- What stands between the front `opening` and a closing parenthesis at
the end. -/
def enclosed? (opening name : Text) : Option Text :=
  if opening.isPrefixOf name && name.getLast? = some ')' then
    some (name.drop opening.length).dropLast
  else none

/-- The parts of a text between commas. -/
def splitCommas : Text → List Text
  | [] => [[]]
  | c :: cs =>
    match splitCommas cs with
    | [] => [[c]]
    | part :: parts => if c = ',' then [] :: part :: parts else (c :: part) :: parts

/-- A part of a mixed color that cannot be read as a number. -/
inductive Fault where
  | emptyPart
  | tooManyDigits (digits : Nat)
  deriving DecidableEq, Repr

def Fault.message : Fault → Text
  | .emptyPart => "invalid literal for int() with base 10: ''"
  | .tooManyDigits digits => DigitLimit.message digits

/-- Six hexadecimal digits after `#`. -/
def isHex (name : Text) : Bool :=
  name.head? = some '#' && name.length = 7 && (name.drop 1).all isHexDigit

/-- The number of a terminal color, in at most three digits. -/
def isNumbered (name : Text) : Bool :=
  match enclosed? "color(" name with
  | some digits =>
    !digits.isEmpty && digits.length ≤ 3 && digits.all Text.isAsciiDigit
      && Text.natOfDigits digits < 256
  | none => false

/-- The number that a part of a mixed color writes. -/
def partValue (part : Text) : Except Fault Nat :=
  if part.isEmpty then .error .emptyPart
  else if DigitLimit.most < part.length then .error (.tooManyDigits part.length)
  else .ok (part.foldl (fun n c => 10 * n + (Text.digitValue? c).getD 0) 0)

/-- A character of the parts of a mixed color. -/
def isPartChar (c : Char) : Bool := (Text.digitValue? c).isSome || c == ','

/-- Red, green and blue, each a number from 0 to 255. -/
def isMixed (name : Text) : Except Fault Bool :=
  match enclosed? "rgb(" name with
  | none => .ok false
  | some inner =>
    let parts := splitCommas inner
    if inner.all isPartChar && parts.length = 3 then
      return (← parts.mapM partValue).all (· < 256)
    else .ok false

/-- Whether a text names a color. -/
def isNamed (name : Text) : Except Fault Bool :=
  if name = "default".toList || spelt.contains (respell name)
    || isHex name || isNumbered name then .ok true
  else isMixed name

end MetricAudit.Rendering.ColorName
