import RoutePaths.Text.Printable

/-!
# RoutePaths.Text.Quoted

Texts shown between quotes, in messages and in the log:

1. the quotes are single, unless the text holds a single quote and no double
   quote;
2. the quote itself and the backslash are escaped by a backslash, line feed,
   carriage return and tab by a letter, and every other character that does
   not show by the hexadecimal digits of its code point.
-/

namespace RoutePaths.Text

/-- The hexadecimal digit of a number below sixteen. -/
def hexDigit (n : Nat) : Char := (Nat.digitChar n)

/-- The last `width` hexadecimal digits of a number. -/
def hex : Nat → Nat → List Char
  | 0, _ => []
  | width + 1, n => hex width (n / 16) ++ [hexDigit (n % 16)]

/-- How a character is shown between quotes `q`. -/
def showChar (q c : Char) : List Char :=
  if c = q || c = '\\' then ['\\', c]
  else if c = '\n' then ['\\', 'n']
  else if c = '\r' then ['\\', 'r']
  else if c = '\t' then ['\\', 't']
  else if isPrintable c then [c]
  else if c.toNat < 0x100 then '\\' :: 'x' :: hex 2 c.toNat
  else if c.toNat < 0x10000 then '\\' :: 'u' :: hex 4 c.toNat
  else '\\' :: 'U' :: hex 8 c.toNat

/-- The quote used around a text. -/
def quoteFor (s : List Char) : Char :=
  if s.contains '\'' && !s.contains '"' then '"' else '\''

/-- A text between quotes. -/
def showQuoted (s : List Char) : List Char :=
  quoteFor s :: s.flatMap (showChar (quoteFor s)) ++ [quoteFor s]

/-- A text between quotes. -/
def quote (s : String) : String := String.ofList (showQuoted s.toList)

end RoutePaths.Text
