import RoutePaths.Console.Styled
import RoutePaths.Text.Digit
import RoutePaths.Text.Pattern
import RoutePaths.Text.Word

/-!
# RoutePaths.Console.Highlight

The parts of a text that stand out by themselves: tags, attributes, brackets,
addresses, identifiers, calls, constants, dots, numbers, paths, strings and
links.  The kinds that share a pattern are searched together, so that of two
that would overlap the one on the left counts, or the first if they begin
together; the others are searched each by itself.
-/

namespace RoutePaths.Console.Highlight

open RoutePaths.Text Pattern

/-! ## Characters -/

/-- A digit of ASCII. -/
def digit : Pattern := char Char.isDigit

/-- A digit of any script. -/
def anyDigit : Pattern := char isDigit

/-- A hexadecimal digit. -/
def hexadecimal : Pattern :=
  char fun c => c.isDigit || ('a' ≤ c && c ≤ 'f') || ('A' ≤ c && c ≤ 'F')

/-- A word character. -/
def wordChar : Pattern := char isWord

/-- A word character or one of some others. -/
def wordOr (cs : String) : Pattern := char fun c => isWord c || cs.toList.contains c

/-- The edge of a word. -/
def wordEdge : Pattern := edge isWord true

/-! ## Kinds -/

/-- A tag, up to the last closing bracket of the text. -/
def tag : Pattern :=
  mark (exactly "<") ++ mark (anyTimes (wordOr "-.:|")) ++ mark (anyTimes (char fun _ => true))
    ++ mark (exactly ">")

/-- A name with a value. -/
def assignment : Pattern :=
  mark (upTo 1 50 wordChar) ++ exactly "="
    ++ opt (mark (opt (exactly "\"") ++ plus wordChar ++ opt (exactly "\"")))

/-- A bracket. -/
def bracket : Pattern := mark (oneOf "[]\x7b\x7d()")

/-- Groups of digits with a character between them. -/
def groups (count : Nat) (between : String) (group : Pattern) : Pattern :=
  times count (group ++ exactly between) ++ group

/-- An address in a network of either version. -/
def address : Pattern :=
  mark (groups 3 "." (upTo 1 3 digit))
    <|> mark (upTo 1 7 (upTo 1 4 hexadecimal ++ exactly ":" ++ opt (exactly ":"))
      ++ upTo 1 4 hexadecimal)

/-- An address of a device, with so many further groups of two digits, or of
four. -/
def device (pairs quads : Nat) : Pattern :=
  mark (groups pairs "-" (upTo 1 2 hexadecimal) <|> groups pairs ":" (upTo 1 2 hexadecimal)
    <|> groups quads "." (times 4 hexadecimal))

/-- An identifier of thirty-two digits. -/
def identifier : Pattern :=
  mark (times 8 hexadecimal ++ exactly "-" ++ times 4 hexadecimal ++ exactly "-"
    ++ times 4 hexadecimal ++ exactly "-" ++ times 4 hexadecimal ++ exactly "-"
    ++ times 12 hexadecimal)

/-- The name of a call. -/
def call : Pattern := mark (many true 0 none (wordOr ".")) ++ exactly "("

/-- A constant. -/
def constant : Pattern :=
  ["False", "None"].foldl (fun p s => p <|> wordEdge ++ mark (exactly s) ++ wordEdge)
    (wordEdge ++ mark (exactly "True") ++ wordEdge)

/-- The digits of a number, and an exponent that is read by a pattern. -/
def decimal (exponent : Pattern) : Pattern :=
  plus digit ++ opt (exactly ".") ++ anyTimes digit
    ++ opt (exactly "e" ++ opt (oneOf "-+") ++ exponent)

/-- As few digits of any script as can be, but one. -/
def fewDigits : Pattern := many true 1 none anyDigit

/-- A complex number. -/
def complex : Pattern :=
  mark (notBehind isWord ++ opt (exactly "-") ++ decimal fewDigits
    ++ opt (oneOf "-+" ++ decimal (plus anyDigit)) ++ exactly "j")

/-- A number. -/
def number : Pattern :=
  mark (notBehind isWord ++ opt (exactly "-") ++ decimal fewDigits ++ wordEdge
    <|> exactly "0x" ++ anyTimes hexadecimal)

/-- A path, and the name of the file in it. -/
def path : Pattern :=
  mark (edge isWord false ++ anyTimes (exactly "/" ++ plus (wordOr "-._+")) ++ exactly "/")
    ++ opt (mark (anyTimes (wordOr "-._+")))

/-- A string between quotes. -/
def string : Pattern :=
  let between (quote : String) : Pattern :=
    opt (exactly "b") ++ exactly quote ++ many true 0 none (char (· ≠ '\n'))
      ++ notBehind (· = '\\') ++ exactly quote
  notBehind (fun c => c = '\\' || isWord c)
    ++ mark (between "'''" <|> between "'" <|> between "\"\"\"" <|> between "\"")

/-- A link. -/
def link : Pattern :=
  mark ((exactly "file" <|> exactly "https" <|> exactly "http" <|> exactly "ws" <|> exactly "wss")
    ++ exactly "://"
    ++ anyTimes (char fun c => c.isAlphanum || "-$_+!\x60(),.?/;:&=%#~@".toList.contains c))

/-- The kinds, those together that are searched together. -/
def kinds : List Pattern :=
  [tag, assignment, bracket,
   address <|> device 7 3 <|> device 5 2 <|> identifier <|> call <|> constant
    <|> mark (exactly "...") <|> complex <|> number <|> path <|> string <|> link]

/-- The parts of a text that stand out. -/
def spans (s : List Char) : List Span :=
  (kinds.flatMap fun p => p.marksIn s).filterMap fun (start, stop) =>
    if start < stop then some { start, stop } else none

end Highlight

/-- The text with the parts that stand out. -/
def highlight (t : Styled) : Styled := { t with spans := Highlight.spans t.chars ++ t.spans }

end RoutePaths.Console
