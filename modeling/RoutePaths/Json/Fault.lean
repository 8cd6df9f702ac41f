/-!
# RoutePaths.Json.Fault

What is wrong with a text that is no JSON text.  The wording names the place by
its line and column, both counted from one, and by the number of characters in
front of it; only of an integer that is too long it tells the length instead.
-/

namespace RoutePaths.Json

/-- What can be wrong at a place of a text. -/
inductive Mistake where
  /-- No value begins there. -/
  | noValue
  /-- No name of a field begins there. -/
  | noName
  /-- No colon stands behind a name. -/
  | noColon
  /-- No comma stands behind an item or a field, and the end neither. -/
  | noComma
  /-- The string that begins there has no end. -/
  | noQuote
  /-- A string holds a control character. -/
  | control
  /-- A backslash stands in front of something that it cannot escape. -/
  | escape
  /-- The four hexadecimal digits of a code are missing. -/
  | code
  /-- There is more than one value. -/
  | extra
  /-- The text begins with a mark for the order of bytes. -/
  | byteOrderMark
  /-- An integer has so many digits, which are too many. -/
  | tooLong (digits limit : Nat)
  deriving Repr, DecidableEq, Inhabited

/-- A mistake and the text from its place on. -/
structure Fault where
  mistake : Mistake
  rest : List Char
  deriving Repr, DecidableEq, Inhabited

/-- The wording of a mistake. -/
def Mistake.words : Mistake → String
  | noValue => "Expecting value"
  | noName => "Expecting property name enclosed in double quotes"
  | noColon => "Expecting ':' delimiter"
  | noComma => "Expecting ',' delimiter"
  | noQuote => "Unterminated string starting at"
  | control => "Invalid control character at"
  | escape => "Invalid \\escape"
  | code => "Invalid \\uXXXX escape"
  | extra => "Extra data"
  | byteOrderMark => "Unexpected UTF-8 BOM (decode using utf-8-sig)"
  | tooLong digits limit => "Exceeds the limit (" ++ toString limit
      ++ " digits) for integer string conversion: value has " ++ toString digits
      ++ " digits; use sys.set_int_max_str_digits() to increase the limit"

/-- The wording of a fault of a text. -/
def Fault.message (text : List Char) (fault : Fault) : String :=
  let before := text.take (text.length - fault.rest.length)
  let column := (before.reverse.takeWhile (· ≠ '\n')).length + 1
  match fault.mistake with
  | .tooLong .. => fault.mistake.words
  | mistake => mistake.words ++ ": line " ++ toString (before.count '\n' + 1) ++ " column "
      ++ toString column ++ " (char " ++ toString before.length ++ ")"

end RoutePaths.Json
