import RoutePaths.Literal.Token
import RoutePaths.Text.Match

/-!
# RoutePaths.Literal.Numeral

Numerals at the start of a text:

1. digits may be set apart by single underscores;
2. a numeral may have a radix of sixteen, eight or two, or else a fraction, an
   exponent, and a letter that makes it imaginary; a whole number other than
   zero begins with no zero;
3. no letter of ASCII may follow without a blank, unless it begins a word that
   can stand behind a number.
-/

namespace RoutePaths.Literal

/-- The rest of a text behind digits in which single underscores stand; `none`
if an underscore has no digit behind it. -/
def skipDigits (isDigit : Char → Bool) : List Char → Option (List Char)
  | [] => some []
  | c :: rest =>
    if isDigit c then skipDigits isDigit rest
    else if c = '_' then
      if rest.head?.any isDigit then skipDigits isDigit rest else none
    else some (c :: rest)

/-- Whether a character can go on with a name, every character beyond ASCII
taken for one. -/
def isNamelike (c : Char) : Bool := 0x80 ≤ c.toNat || Text.continuesName c

/-- Whether a text goes on with a word that can stand behind a number. -/
def hasWordNext (s : List Char) : Bool :=
  ["if", "in", "is"].any (fun w => w.toList.isPrefixOf s)
    || ["and", "else", "for", "or", "not"].any fun w =>
      match Text.expect w.toList s with
      | some rest => !rest.head?.any isNamelike
      | none => false

/-- The rest of a text behind a numeral, if it can stand there. -/
def numeralEnd (kind : String) (s : List Char) : Except String (List Char) :=
  if hasWordNext s || !s.head?.any (fun c => c.toNat < 0x80 && isNamelike c) then .ok s
  else .error ("invalid " ++ kind ++ " literal")

/-- A numeral with a radix, behind the letter that gives the radix. -/
def radixEnd (kind : String) (isDigit : Char → Bool) (s : List Char) :
    Except String (List Char) :=
  let wrong (s : List Char) : Except String (List Char) :=
    match s with
    | c :: _ =>
      if c.isDigit then
        .error ("invalid digit '" ++ String.ofList [c] ++ "' in " ++ kind ++ " literal")
      else .error ("invalid " ++ kind ++ " literal")
    | [] => .error ("invalid " ++ kind ++ " literal")
  digits wrong s
where
  /-- Groups of digits, an underscore before each but the first, where it may
  stand. -/
  digits (wrong : List Char → Except String (List Char)) : List Char → Except String (List Char)
    | '_' :: d :: rest => if isDigit d then group wrong rest else wrong (d :: rest)
    | d :: rest =>
      if isDigit d then group wrong rest else wrong (if d = '_' then rest else d :: rest)
    | [] => wrong []
  /-- The rest of a group of digits. -/
  group (wrong : List Char → Except String (List Char)) : List Char → Except String (List Char)
    | [] => .ok []
    | '_' :: d :: rest => if isDigit d then group wrong rest else wrong (d :: rest)
    | d :: rest =>
      if isDigit d then group wrong rest
      else if d = '_' then wrong rest
      else if d.isDigit then wrong (d :: rest)
      else numeralEnd kind (d :: rest)

/-- The message about a numeral that cannot be read. -/
def badDecimal : String := "invalid decimal literal"

/-- The rest behind the digits of a decimal numeral. -/
def decimalDigits (s : List Char) : Except String (List Char) :=
  match skipDigits Char.isDigit s with
  | some rest => .ok rest
  | none => .error badDecimal

/-- The letter of an imaginary number, and the end. -/
def imaginaryEnd (s : List Char) : Except String (List Char) :=
  match s with
  | c :: rest =>
    if c = 'j' || c = 'J' then numeralEnd "imaginary" rest else numeralEnd "decimal" s
  | [] => .ok []

/-- An exponent, if there is one, and the end. -/
def exponentEnd (s : List Char) : Except String (List Char) :=
  match s with
  | e :: rest =>
    if e = 'e' || e = 'E' then
      match rest with
      | c :: digits =>
        if c = '+' || c = '-' then
          if digits.head?.any Char.isDigit then do imaginaryEnd (← decimalDigits digits)
          else .error badDecimal
        else if c.isDigit then do imaginaryEnd (← decimalDigits rest)
        else numeralEnd "decimal" s
      | [] => numeralEnd "decimal" s
    else imaginaryEnd s
  | [] => .ok []

/-- A fraction without its point, and the end. -/
def fractionEnd (s : List Char) : Except String (List Char) :=
  if s.head?.any Char.isDigit then do exponentEnd (← decimalDigits s) else exponentEnd s

/-- The rest of a text behind the whole part of a numeral. -/
def wholeEnd (s : List Char) : Except String (List Char) :=
  match s with
  | '.' :: rest => fractionEnd rest
  | _ => exponentEnd s

/-- The message about a whole number that begins with a zero. -/
def leadingZero : String :=
  "leading zeros in decimal integer literals are not permitted; "
    ++ "use an 0o prefix for octal integers"

/-- The rest of a text behind a numeral that begins with a zero. -/
def zeroEnd (s : List Char) : Except String (List Char) :=
  match s with
  | c :: rest =>
    if c = 'x' || c = 'X' then
      radixEnd "hexadecimal" (fun d => d.isDigit || ('a' ≤ d && d ≤ 'f') || ('A' ≤ d && d ≤ 'F'))
        rest
    else if c = 'o' || c = 'O' then radixEnd "octal" (fun d => '0' ≤ d && d ≤ '7') rest
    else if c = 'b' || c = 'B' then radixEnd "binary" (fun d => d = '0' || d = '1') rest
    else do
      let behind ← decimalDigits s
      let isZero := (s.take (s.length - behind.length)).all fun d => d = '0' || d = '_'
      match behind with
      | d :: _ =>
        if d = '.' || d = 'e' || d = 'E' || d = 'j' || d = 'J' || isZero then wholeEnd behind
        else .error leadingZero
      | [] => if isZero then .ok [] else .error leadingZero
  | [] => .ok []

/-- The rest of a text behind the numeral that it begins with: a digit, or a
point and a digit. -/
def numeralRest (s : List Char) : Except String (List Char) :=
  match s with
  | '.' :: rest => fractionEnd rest
  | '0' :: rest => zeroEnd rest
  | _ => do wholeEnd (← decimalDigits s)

/-! ## Kinds of numbers -/

/-- What a numeral stands for. -/
inductive NumberKind where
  | integer
  | real
  | imaginary
  deriving Repr, DecidableEq, Inhabited

/-- Whether a numeral has a radix of its own. -/
def hasRadix : List Char → Bool
  | '0' :: c :: _ => ['x', 'X', 'o', 'O', 'b', 'B'].contains c
  | _ => false

/-- What a numeral stands for. -/
def NumberKind.ofText (s : List Char) : NumberKind :=
  if hasRadix s then .integer
  else if s.any fun c => c = 'j' || c = 'J' then .imaginary
  else if s.any fun c => c = '.' || c = 'e' || c = 'E' then .real
  else .integer

end RoutePaths.Literal
