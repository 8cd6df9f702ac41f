import RoutePaths.Json.Basic
import RoutePaths.Text.Quoted

/-!
# RoutePaths.Json.Printer

Values as JSON text:

1. items and fields stand on lines of their own, indented by two spaces more
   than their array or object; an empty array or object is two brackets;
2. the text is ASCII: every other character, and every control character
   without a letter of its own, is written as the hexadecimal digits of its
   UTF-16 units.
-/

namespace RoutePaths.Json

/-! ## Strings -/

/-- The escape of one UTF-16 unit. -/
def unitEscape (n : Nat) : List Char := '\\' :: 'u' :: Text.hex 4 n

/-- How a character is written in a string. -/
def escapeChar (c : Char) : List Char :=
  if c = '"' then ['\\', '"']
  else if c = '\\' then ['\\', '\\']
  else if c = '\n' then ['\\', 'n']
  else if c = '\r' then ['\\', 'r']
  else if c = '\t' then ['\\', 't']
  else if c.toNat = 8 then ['\\', 'b']
  else if c.toNat = 12 then ['\\', 'f']
  else if 0x20 ≤ c.toNat ∧ c.toNat < 0x7F then [c]
  else if c.toNat < 0x10000 then unitEscape c.toNat
  else unitEscape (0xD800 + (c.toNat - 0x10000) / 0x400)
    ++ unitEscape (0xDC00 + (c.toNat - 0x10000) % 0x400)

/-- A string between quotes. -/
def printString (s : String) : List Char := '"' :: s.toList.flatMap escapeChar ++ ['"']

/-! ## Numbers -/

/-- A number, written so that reading gives it back. -/
def printNumber : JsonNumber → List Char
  | .integer n => (toString n).toList
  | .decimal negative digits exponent =>
    (if negative then ['-'] else []) ++ (toString digits).toList
      ++ 'e' :: (toString exponent).toList
  | .infinity negative => (if negative then ['-'] else []) ++ "Infinity".toList
  | .undefined => "NaN".toList

/-! ## Values -/

/-- A line end and the indentation of a level. -/
def newline (level : Nat) : List Char := '\n' :: List.replicate (2 * level) ' '

mutual

/-- A value at an indentation level. -/
def printAt (level : Nat) : Json → List Char
  | .null => "null".toList
  | .bool true => "true".toList
  | .bool false => "false".toList
  | .number value => printNumber value
  | .string value => printString value
  | .array [] => ['[', ']']
  | .array (item :: items) =>
    '[' :: newline (level + 1) ++ printAt (level + 1) item ++ printItems (level + 1) items
      ++ newline level ++ [']']
  | .object [] => ['{', '}']
  | .object ((name, value) :: fields) =>
    '{' :: newline (level + 1) ++ printString name ++ ':' :: ' ' :: printAt (level + 1) value
      ++ printFields (level + 1) fields ++ newline level ++ ['}']

/-- The items after the first. -/
def printItems (level : Nat) : List Json → List Char
  | [] => []
  | item :: items => ',' :: newline level ++ printAt level item ++ printItems level items

/-- The fields after the first. -/
def printFields (level : Nat) : List (String × Json) → List Char
  | [] => []
  | (name, value) :: fields =>
    ',' :: newline level ++ printString name ++ ':' :: ' ' :: printAt level value
      ++ printFields level fields

end

/-- A value as JSON text. -/
def print (value : Json) : String := String.ofList (printAt 0 value)

end RoutePaths.Json
