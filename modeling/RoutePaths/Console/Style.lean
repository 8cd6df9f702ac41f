import RoutePaths.Ledger
import RoutePaths.Text.Blank
import RoutePaths.Text.Casing
import RoutePaths.Text.Digit
import RoutePaths.Text.Split

/-!
# RoutePaths.Console.Style

Names of console styles.  A style is named by words: attributes, a colour, a
background colour behind `on`, a link.  Two names mean the same style if they
have one normal form:

1. attributes come first in a fixed order, under their long names, then the
   colour, the background and the link;
2. a name that is not made of such words is only trimmed and put in lower
   case.

A colour may be given by its three parts.  What has the shape of such a colour
but lacks one of the parts is not taken for another kind of name: it is an
error.
-/

namespace RoutePaths.Console

/-! ## Words -/

/-- The attributes in the order of the normal form, with their short names. -/
def attributes : List (String × List String) :=
  [("bold", ["bold", "b"]), ("dim", ["dim", "d"]), ("italic", ["italic", "i"]),
   ("underline", ["underline", "u"]), ("blink", ["blink"]), ("blink2", ["blink2"]),
   ("reverse", ["reverse", "r"]), ("conceal", ["conceal", "c"]), ("strike", ["strike", "s"]),
   ("underline2", ["underline2", "uu"]), ("frame", ["frame"]), ("encircle", ["encircle"]),
   ("overline", ["overline", "o"])]

/-- The long name of an attribute. -/
def attribute? (word : String) : Option String :=
  (attributes.find? fun (_, spellings) => spellings.contains word).map (·.1)

/-- The colours that have a name. -/
def colourNames : List String := [
   "black", "red", "green", "yellow", "blue", "magenta", "cyan", "white", "bright_black",
    "bright_red", "bright_green", "bright_yellow", "bright_blue", "bright_magenta",
    "bright_cyan", "bright_white", "grey0", "gray0", "navy_blue", "dark_blue", "blue3", "blue1",
    "dark_green", "deep_sky_blue4", "dodger_blue3", "dodger_blue2", "green4", "spring_green4",
    "turquoise4", "deep_sky_blue3", "dodger_blue1", "green3", "spring_green3", "dark_cyan",
    "light_sea_green", "deep_sky_blue2", "deep_sky_blue1", "spring_green2", "cyan3",
    "dark_turquoise", "turquoise2", "green1", "spring_green1", "medium_spring_green", "cyan2",
    "cyan1", "dark_red", "deep_pink4", "purple4", "purple3", "blue_violet", "orange4", "grey37",
    "gray37", "medium_purple4", "slate_blue3", "royal_blue1", "chartreuse4", "dark_sea_green4",
    "pale_turquoise4", "steel_blue", "steel_blue3", "cornflower_blue", "chartreuse3",
    "cadet_blue", "sky_blue3", "steel_blue1", "pale_green3", "sea_green3", "aquamarine3",
    "medium_turquoise", "chartreuse2", "sea_green2", "sea_green1", "aquamarine1",
    "dark_slate_gray2", "dark_magenta", "dark_violet", "purple", "light_pink4", "plum4",
    "medium_purple3", "slate_blue1", "yellow4", "wheat4", "grey53", "gray53",
    "light_slate_grey", "light_slate_gray", "medium_purple", "light_slate_blue",
    "dark_olive_green3", "dark_sea_green", "light_sky_blue3", "sky_blue2", "dark_sea_green3",
    "dark_slate_gray3", "sky_blue1", "chartreuse1", "light_green", "pale_green1",
    "dark_slate_gray1", "red3", "medium_violet_red", "magenta3", "dark_orange3", "indian_red",
    "hot_pink3", "medium_orchid3", "medium_orchid", "medium_purple2", "dark_goldenrod",
    "light_salmon3", "rosy_brown", "grey63", "gray63", "medium_purple1", "gold3", "dark_khaki",
    "navajo_white3", "grey69", "gray69", "light_steel_blue3", "light_steel_blue", "yellow3",
    "dark_sea_green2", "light_cyan3", "light_sky_blue1", "green_yellow", "dark_olive_green2",
    "dark_sea_green1", "pale_turquoise1", "deep_pink3", "magenta2", "hot_pink2", "orchid",
    "medium_orchid1", "orange3", "light_pink3", "pink3", "plum3", "violet", "light_goldenrod3",
    "tan", "misty_rose3", "thistle3", "plum2", "khaki3", "light_goldenrod2", "light_yellow3",
    "grey84", "gray84", "light_steel_blue1", "yellow2", "dark_olive_green1", "honeydew2",
    "light_cyan1", "red1", "deep_pink2", "deep_pink1", "magenta1", "orange_red1", "indian_red1",
    "hot_pink", "dark_orange", "salmon1", "light_coral", "pale_violet_red1", "orchid2",
    "orchid1", "orange1", "sandy_brown", "light_salmon1", "light_pink1", "pink1", "plum1",
    "gold1", "navajo_white1", "misty_rose1", "thistle1", "yellow1", "light_goldenrod1",
    "khaki1", "wheat1", "cornsilk1", "grey100", "gray100", "grey3", "gray3", "grey7", "gray7",
    "grey11", "gray11", "grey15", "gray15", "grey19", "gray19", "grey23", "gray23", "grey27",
    "gray27", "grey30", "gray30", "grey35", "gray35", "grey39", "gray39", "grey42", "gray42",
    "grey46", "gray46", "grey50", "gray50", "grey54", "gray54", "grey58", "gray58", "grey62",
    "gray62", "grey66", "gray66", "grey70", "gray70", "grey74", "gray74", "grey78", "gray78",
    "grey82", "gray82", "grey85", "gray85", "grey89", "gray89", "grey93", "gray93"]

/-- The number spelled by ASCII digits, if it is at most 255. -/
def byte? (s : List Char) : Option Nat :=
  if !s.isEmpty && s.all Char.isDigit && Text.ofDigits s ≤ 255 then some (Text.ofDigits s) else none

/-- The text between a beginning and a closing parenthesis. -/
def inParentheses? (opening word : List Char) : Option (List Char) :=
  if opening.isPrefixOf word && word.getLast? = some ')' then
    some (word.drop opening.length).dropLast
  else none

/-- Why a part of a colour cannot be read. -/
inductive ColourError where
  /-- It has no digit. -/
  | noDigits
  /-- It has more digits than a number is read from. -/
  | tooLong (digits : Nat)
  deriving Repr, DecidableEq, Inhabited

/-- The wording of an error. -/
def ColourError.message : ColourError → String
  | noDigits => "invalid literal for int() with base 10: ''"
  | tooLong digits =>
    "Exceeds the limit (4300 digits) for integer string conversion: value has " ++ toString digits
      ++ " digits; use sys.set_int_max_str_digits() to increase the limit"

/-- The number of a part of a colour, which is made of digits of any script. -/
def colourPart (s : List Char) : Except ColourError Nat :=
  if s.isEmpty then .error .noDigits
  else if Text.maxDigits < s.length then .error (.tooLong s.length)
  else .ok (Text.ofDigits s)

/-- Whether a text between parentheses gives the three parts of a colour. -/
def givesParts (s : List Char) : Except ColourError Bool :=
  if s.isEmpty || !s.all fun c => Text.isDigit c || c = ',' then .ok false
  else match Text.splitOn ',' s with
    | [red, green, blue] => do
      let parts ← [red, green, blue].mapM colourPart
      return parts.all (· ≤ 255)
    | _ => .ok false

/-- Whether a word in lower case is a colour. -/
def isColour (word : List Char) : Except ColourError Bool :=
  match inParentheses? "rgb(".toList word with
  | some s => givesParts s
  | none => .ok (
    word = "default".toList || colourNames.contains (String.ofList word)
      || (word.head? = some '#' && word.length = 7
        && word.tail.all fun c => c.isDigit || ('a' ≤ c && c ≤ 'f'))
      || ((inParentheses? "color(".toList word).bind fun s =>
          if s.length ≤ 3 then byte? s else none).isSome)

/-! ## Names -/

/-- What the words of a name ask for. -/
structure Look where
  attributes : Ledger String Bool := []
  colour : Option String := none
  background : Option String := none
  link : Option String := none
  deriving Repr, Inhabited

namespace Look

/-- The look that the words ask for on top of another, if they are words of
styles. -/
def ofWords (look : Look) : List (List Char) → Except ColourError (Option Look)
  | [] => .ok (some look)
  | word :: rest =>
    let word := Text.lower word
    if word = "on".toList then
      match rest with
      | [] => .ok none
      | name :: rest => do
        if ← isColour (Text.lower name) then
          ofWords { look with background := some (String.ofList (Text.lower name)) } rest
        else return none
    else if word = "not".toList then
      match rest with
      | [] => .ok none
      | name :: rest =>
        match attribute? (String.ofList name) with
        | none => .ok none
        | some a => ofWords { look with attributes := look.attributes.put a false } rest
    else if word = "link".toList then
      match rest with
      | [] => .ok none
      | target :: rest => ofWords { look with link := some (String.ofList target) } rest
    else match attribute? (String.ofList word) with
      | some a => ofWords { look with attributes := look.attributes.put a true } rest
      | none => do
        if ← isColour word then
          ofWords { look with colour := some (String.ofList word) } rest
        else return none

/-- The normal form of a look. -/
def name (look : Look) : String :=
  let words :=
    Console.attributes.filterMap (fun (a, _) => (look.attributes.get? a).map fun isOn =>
        if isOn then a else "not " ++ a)
      ++ look.colour.toList
      ++ (look.background.map ("on " ++ ·)).toList
      ++ (look.link.map ("link " ++ ·)).toList
  if words.isEmpty then "none" else " ".intercalate words

end Look

/-- The words of a text. -/
def blankWords (s : List Char) : List (List Char) :=
  (s.splitBy fun a b => Text.isBlank a = Text.isBlank b).filter fun run =>
    !run.head?.any Text.isBlank

/-- Whether a style name asks for nothing. -/
def isPlain (name : List Char) : Bool :=
  Text.trim name = [] || Text.trim name = "none".toList

/-- What a style name asks for, if it is made of words of styles. -/
def look? (name : List Char) : Except ColourError (Option Look) :=
  if isPlain name then .ok (some {}) else Look.ofWords {} (blankWords name)

/-- The normal form of a style name. -/
def normalName (name : List Char) : Except ColourError (List Char) := do
  match ← look? name with
  | some look => return look.name.toList
  | none => return Text.lower (Text.trim name)

end RoutePaths.Console
