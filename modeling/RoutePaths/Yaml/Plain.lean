import RoutePaths.Text.Match
import RoutePaths.Text.Split

/-!
# RoutePaths.Yaml.Plain

Which unquoted scalars a YAML 1.1 reader takes for something else than text:

1. truth values and nulls, by their spellings in lower, capital and upper case;
2. integers in base two, eight, ten, sixteen and sixty, and floating point
   numbers, which need a point, and a sign if they have an exponent;
3. dates and moments;
4. the merge key and the default key.

Digits may be separated by low lines wherever the reader allows it.
-/

namespace RoutePaths.Yaml

open RoutePaths.Text

/-! ## Characters and words -/

/-- A decimal digit. -/
def isDecimal (c : Char) : Bool := '0' ≤ c && c ≤ '9'

/-- A digit or a low line. -/
def isSeparated (c : Char) : Bool := isDecimal c || c = '_'

/-- Whether all characters belong to a class and there is at least one. -/
def someAll (p : Char → Bool) (s : List Char) : Bool := !s.isEmpty && s.all p

/-- A word in lower case, with a capital, and in upper case. -/
def spellings (word : String) : List (List Char) :=
  [word.toList, word.capitalize.toList, word.toUpper.toList]

/-- The text without a sign at its start. -/
def dropSign : List Char → List Char
  | [] => []
  | c :: s => if c = '-' || c = '+' then s else c :: s

/-! ## Truth values and nulls -/

/-- The spellings of truth values. -/
def truthWords : List (List Char) := ["yes", "no", "true", "false", "on", "off"].flatMap spellings

/-- The spellings of null. -/
def nullWords : List (List Char) := [] :: ['~'] :: spellings "null"

/-! ## Numbers -/

/-- Digits separated by low lines, beginning with a digit. -/
def isDigits : List Char → Bool
  | [] => false
  | c :: s => isDecimal c && s.all isSeparated

/-- The same, beginning with a digit other than zero. -/
def isCounting (s : List Char) : Bool := isDigits s && s.head? ≠ some '0'

/-- A place of a number in base sixty: one digit, or two up to 59. -/
def isSixtieth : List Char → Bool
  | [d] => isDecimal d
  | [t, d] => '0' ≤ t && t ≤ '5' && isDecimal d
  | _ => false

/-- The places after the first of a number in base sixty, at least one. -/
def areSixtieths (places : List (List Char)) : Bool := !places.isEmpty && places.all isSixtieth

/-- An exponent with its sign. -/
def isExponent : List Char → Bool
  | e :: sign :: s => (e = 'e' || e = 'E') && (sign = '-' || sign = '+') && someAll isDecimal s
  | _ => false

/-- The part of a number behind its point: digits, then perhaps an exponent. -/
def isFraction (s : List Char) : Bool :=
  let rest := s.dropWhile isSeparated
  rest.isEmpty || isExponent rest

/-- Whether a text reads as an integer. -/
def isInteger (s : List Char) : Bool :=
  let s := dropSign s
  match s with
  | '0' :: 'b' :: ds => someAll (fun c => c = '0' || c = '1' || c = '_') ds
  | '0' :: 'x' :: ds =>
    someAll (fun c => isSeparated c || ('a' ≤ c && c ≤ 'f') || ('A' ≤ c && c ≤ 'F')) ds
  | '0' :: ds => ds.all fun c => ('0' ≤ c && c ≤ '7') || c = '_'
  | _ =>
    match splitOn ':' s with
    | [] => false
    | [whole] => isCounting whole
    | whole :: places => isCounting whole && areSixtieths places

/-- Whether a text reads as a floating point number. -/
def isFloat (s : List Char) : Bool :=
  let unsigned := dropSign s
  let pointed (words : List String) (t : List Char) : Bool :=
    words.any fun word => t = '.' :: word.toList
  (isDigits (unsigned.takeWhile isSeparated) &&
    match unsigned.dropWhile isSeparated with
    | '.' :: rest => isFraction rest
    | _ => false)
    || (match s with
      | '.' :: d :: rest => isDecimal d && isFraction rest
      | _ => false)
    || (match splitOn '.' unsigned with
      | [whole, rest] =>
        match splitOn ':' whole with
        | first :: places => isDigits first && areSixtieths places && rest.all isSeparated
        | [] => false
      | _ => false)
    || pointed ["inf", "Inf", "INF"] unsigned
    || pointed ["nan", "NaN", "NAN"] s

/-! ## Dates -/

/-- The rest of the text after a run of digits of an allowed length. -/
def digitRun (lengths : List Nat) (s : List Char) : Option (List Char) :=
  if lengths.contains (s.takeWhile isDecimal).length then some (s.dropWhile isDecimal) else none

/-- Whether a text is a date in the long form. -/
def isDate (s : List Char) : Bool :=
  (do
    let s ← digitRun [4] s
    let s ← expect ['-'] s
    let s ← digitRun [2] s
    let s ← expect ['-'] s
    digitRun [2] s) = some []

/-- A space or a tab. -/
def isGap (c : Char) : Bool := c = ' ' || c = '\t'

/-- Whether a text is empty or a time zone. -/
def isZone (s : List Char) : Bool :=
  s.isEmpty ||
    match s.dropWhile isGap with
    | ['Z'] => true
    | c :: t =>
      (c = '-' || c = '+') &&
        match digitRun [1, 2] t with
        | some [] => true
        | some (':' :: u) => digitRun [2] u = some []
        | _ => false
    | [] => false

/-- Whether a text is a date with a time of day. -/
def isMoment (s : List Char) : Bool :=
  match (do
    let s ← digitRun [4] s
    let s ← expect ['-'] s
    let s ← digitRun [1, 2] s
    let s ← expect ['-'] s
    let s ← digitRun [1, 2] s
    let s ← match s with
      | c :: t => (if c = 'T' || c = 't' then some t
        else if isGap c then some (t.dropWhile isGap) else none)
      | [] => none
    let s ← digitRun [1, 2] s
    let s ← expect [':'] s
    let s ← digitRun [2] s
    let s ← expect [':'] s
    digitRun [2] s : Option (List Char)) with
  | none => false
  | some ('.' :: rest) => isZone (rest.dropWhile isDecimal)
  | some rest => isZone rest

/-! ## Texts -/

/-- Whether an unquoted scalar reads as the text it spells. -/
def readsAsText (s : List Char) : Bool :=
  !(truthWords.contains s || nullWords.contains s || isInteger s || isFloat s || isDate s
    || isMoment s || s = ['<', '<'] || s = ['='])

end RoutePaths.Yaml
