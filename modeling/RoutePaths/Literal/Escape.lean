import RoutePaths.Text.Quoted

/-!
# RoutePaths.Literal.Escape

The parts of a string, and the escapes in it: an escape by hexadecimal digits
needs all of them, and one by name needs the name in braces.

The places that messages tell are those of the text in which every character
beyond ASCII has been written as an escape of ten characters.
-/

namespace RoutePaths.Literal

/-! ## Parts of a string -/

/-- The letters before the quote, in lower case. -/
def stringLetters (s : List Char) : List Char := (s.takeWhile Char.isAlpha).map Char.toLower

/-- The characters between the quotes. -/
def stringChars (s : List Char) : List Char :=
  match s.dropWhile Char.isAlpha with
  | q :: a :: b :: rest =>
    if q = a && a = b && 3 ≤ rest.length then rest.take (rest.length - 3)
    else (a :: b :: rest).dropLast
  | _ => []

/-! ## Escapes -/

/-- Whether a character is a hexadecimal digit. -/
def isHexDigit (c : Char) : Bool := c.isDigit || ('a' ≤ c && c ≤ 'f') || ('A' ≤ c && c ≤ 'F')

/-- The text with an escape of ten characters for every character beyond ASCII,
and with a written backslash for one before such a character. -/
def asciiForm : List Char → List Char
  | [] => []
  | '\\' :: c :: rest =>
    if 0x80 ≤ c.toNat then
      '\\' :: "u005c".toList ++ '\\' :: 'U' :: Text.hex 8 c.toNat ++ asciiForm rest
    else '\\' :: c :: asciiForm rest
  | c :: rest =>
    (if 0x80 ≤ c.toNat then '\\' :: 'U' :: Text.hex 8 c.toNat else [c]) ++ asciiForm rest

/-- The message about an escape in a text. -/
def badEscape (start stop : Nat) (reason : String) : String :=
  "(unicode error) 'unicodeescape' codec can't decode bytes in position " ++ toString start ++ "-"
    ++ toString (stop - 1) ++ ": " ++ reason

/-- What is wrong with the first wrong escape of a text, whose first character
stands at `place`; `fuel` bounds the number of characters. -/
def textFault? : Nat → Nat → List Char → Option String
  | 0, _, _ => none
  | _, _, [] => none
  | fuel + 1, place, '\\' :: c :: rest =>
    let digits (count : Nat) (kind : String) :=
      let found := (rest.take count).takeWhile isHexDigit
      if found.length < count then
        some (badEscape place (place + 2 + found.length) ("truncated \\" ++ kind ++ " escape"))
      else if count = 8 && 0x10FFFF < hexNumber found then
        some (badEscape place (place + 2 + count) "illegal Unicode character")
      else textFault? fuel (place + 2 + count) (rest.drop count)
    if c = 'x' then digits 2 "xXX"
    else if c = 'u' then digits 4 "uXXXX"
    else if c = 'U' then digits 8 "UXXXXXXXX"
    else if c = 'N' then
      let malformed (stop : Nat) := some (badEscape place stop "malformed \\N character escape")
      match rest with
      | '{' :: inner =>
        let name := inner.takeWhile (· ≠ '}')
        if name.length = inner.length then malformed (place + 3 + name.length)
        else if name.isEmpty then malformed (place + 3)
        else textFault? fuel (place + 4 + name.length) (inner.drop (name.length + 1))
      | _ => malformed (place + 2)
    else textFault? fuel (place + 2) rest
  | fuel + 1, place, _ :: rest => textFault? fuel (place + 1) rest
where
  /-- The number of hexadecimal digits. -/
  hexNumber (ds : List Char) : Nat :=
    ds.foldl (fun n d => 16 * n + (if d.isDigit then d.toNat - 48
      else if 'a' ≤ d then d.toNat - 87 else d.toNat - 55)) 0

/-- What is wrong with the first wrong escape of bytes, whose first character
stands at `place`; `fuel` bounds the number of characters. -/
def bytesFault? : Nat → Nat → List Char → Option String
  | 0, _, _ => none
  | _, _, [] => none
  | fuel + 1, place, '\\' :: 'x' :: rest =>
    let found := (rest.take 2).takeWhile isHexDigit
    if found.length = 2 then bytesFault? fuel (place + 4) (rest.drop 2)
    else some ("(value error) invalid \\x escape at position " ++ toString (place + found.length))
  | fuel + 1, place, '\\' :: _ :: rest => bytesFault? fuel (place + 2) rest
  | fuel + 1, place, _ :: rest => bytesFault? fuel (place + 1) rest

end RoutePaths.Literal
