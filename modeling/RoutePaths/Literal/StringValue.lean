import RoutePaths.Literal.Expr
import RoutePaths.Literal.FormatString
import RoutePaths.Text.Digit

/-!
# RoutePaths.Literal.StringValue

What strings side by side stand for, and how long numerals may be:

1. strings of bytes hold ASCII characters only, and do not stand beside
   strings of text;
2. a backslash begins an escape unless the letters before the quote say
   otherwise.
-/

namespace RoutePaths.Literal

/-! ## Strings side by side -/

/-- The kind of a string. -/
def stringShape (s : List Char) : Shape :=
  let letters := stringLetters s
  if letters.contains 'b' then .bytes else if letters.contains 'f' then .format else .text

/-- Whether the backslashes of a string are characters like others. -/
def isRawString (s : List Char) : Bool :=
  (stringLetters s).contains 'r' || !(stringChars s).contains '\\'

/-- What is wrong with the characters of a string without fields. -/
def plainFault? (s : List Char) : Option String :=
  let chars := stringChars s
  match stringShape s with
  | .bytes =>
    if chars.any (0x80 ≤ ·.toNat) then some "bytes can only contain ASCII literal characters"
    else if isRawString s then none
    else bytesFault? chars.length 0 chars
  | .text =>
    if isRawString s then none
    else
      let form := asciiForm chars
      textFault? form.length 0 form
  | _ => none

/-- What is wrong with strings behind one that is bytes or not; `inside` tells
what is wrong with an expression on a line. -/
def mixFault? (inside : Nat → List Char → Option String) (isBytes : Option Bool) :
    List Token → Option String
  | [] => none
  | t :: rest =>
    let isBytesHere := stringShape t.text = .bytes
    match plainFault? t.text with
    | some message => some message
    | none =>
      if isBytes = some !isBytesHere then some "cannot mix bytes and nonbytes literals"
      else
        let fault? :=
          if stringShape t.text = .format then
            formatFault? (fun lines => inside (t.line + lines))
              ((stringLetters t.text).contains 'r') (stringChars t.text)
          else none
        fault?.or (mixFault? inside (some isBytesHere) rest)

/-- What is wrong with strings side by side. -/
def stringsFault? (inside : Nat → List Char → Option String) (ts : List Token) : Option String :=
  mixFault? inside none ts

/-- The one value of strings side by side. -/
def joinStrings (es : List Expr) : List Expr :=
  let shapes := es.map fun e => stringShape e.text
  [.leaf (if shapes.contains .format then .format
    else if shapes.contains .bytes then .bytes else .text) []]

/-! ## Numbers -/

/-- What is wrong with a numeral: a whole number has no more digits than are
read. -/
def numeralFault? (s : List Char) : Option String :=
  let digits := (s.filter Char.isDigit).length
  if hasRadix s || NumberKind.ofText s ≠ .integer || digits ≤ Text.maxDigits then none
  else some ("Exceeds the limit (4300 digits) for integer string conversion: value has "
    ++ toString digits ++ " digits; use sys.set_int_max_str_digits() to increase the limit"
    ++ " - Consider hexadecimal for huge integer literals to avoid decimal conversion limits.")

end RoutePaths.Literal
