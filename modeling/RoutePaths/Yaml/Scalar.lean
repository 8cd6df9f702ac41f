import RoutePaths.Text.Quoted
import RoutePaths.Yaml.Plain

/-!
# RoutePaths.Yaml.Scalar

How a scalar is quoted in block style:

1. it stands unquoted if it reads as itself, has no spaces or line breaks at
   its ends, no line breaks inside, and nothing in it that a reader takes for
   an indicator or that does not show;
2. else it stands between single quotes, if all of it shows and no space
   stands beside a line break;
3. else it stands between double quotes, where everything can be escaped;
4. a key on one line with its value never holds a line break as such.
-/

namespace RoutePaths.Yaml

/-! ## Characters -/

/-- A line break. -/
def isBreak (c : Char) : Bool :=
  c = '\n' || c.toNat = 0x85 || c.toNat = 0x2028 || c.toNat = 0x2029

/-- A character that separates an indicator from what follows. -/
def isApart (c : Char) : Bool := c.toNat = 0 || c = ' ' || c = '\t' || c = '\r' || isBreak c

/-- A character that shows only when it is escaped. -/
def isSpecial (c : Char) : Bool :=
  !(c = '\n' || (0x20 ≤ c.toNat && c.toNat ≤ 0x7E))
    && (c.toNat = 0xFEFF
      || !(c.toNat = 0x85 || (0xA0 ≤ c.toNat && c.toNat ≤ 0xD7FF)
        || (0xE000 ≤ c.toNat && c.toNat ≤ 0xFFFD)
        || (0x10000 ≤ c.toNat && c.toNat < 0x10FFFF)))

/-! ## Indicators -/

/-- Whether nothing or a separating character comes first. -/
def startsApart : List Char → Bool
  | [] => true
  | c :: _ => isApart c

/-- Whether the first character of a scalar is an indicator. -/
def leadsAsIndicator : List Char → Bool
  | [] => false
  | c :: rest =>
    "#,[]\x7b\x7d&*!|>'\"%@\x60".toList.contains c
      || ((c = '?' || c = ':' || c = '-') && startsApart rest)

/-- Whether a colon before a separating character, or a number sign behind
one, stands in a text that follows the character `before`. -/
def holdsIndicator (before : Char) : List Char → Bool
  | [] => false
  | c :: rest =>
    (c = ':' && startsApart rest) || (c = '#' && isApart before) || holdsIndicator c rest

/-- Whether a scalar has an indicator where a reader would see it. -/
def hasIndicator (s : List Char) : Bool :=
  ['-', '-', '-'].isPrefixOf s || ['.', '.', '.'].isPrefixOf s || leadsAsIndicator s ||
    match s with
    | [] => false
    | c :: rest => holdsIndicator c rest

/-! ## Spaces and breaks -/

/-- Whether two neighbours are a first and a second kind of character. -/
def neighbours (p q : Char → Bool) : List Char → Bool
  | a :: b :: rest => (p a && q b) || neighbours p q (b :: rest)
  | _ => false

/-- Whether a scalar begins or ends with a space or a break. -/
def isOpenEnded (s : List Char) : Bool :=
  let outer (c : Char) : Bool := c = ' ' || isBreak c
  s.head?.any outer || s.getLast?.any outer

/-- Whether a space stands beside a break. -/
def mixesSpaces (s : List Char) : Bool :=
  neighbours (· = ' ') isBreak s || neighbours isBreak (· = ' ') s

/-- Whether a scalar has more than one line. -/
def isMultiline (s : List Char) : Bool := s.any isBreak

/-! ## Styles -/

/-- The ways to write a scalar. -/
inductive Style where
  | plain
  | single
  | double
  deriving Repr, DecidableEq, Inhabited

/-- Whether a scalar may stand unquoted. -/
def allowsPlain (s : List Char) : Bool :=
  !(isOpenEnded s || mixesSpaces s || s.any isSpecial || isMultiline s || hasIndicator s)

/-- Whether a scalar may stand between single quotes. -/
def allowsSingle (s : List Char) : Bool := !(mixesSpaces s || s.any isSpecial)

/-- The style of a text; `onKeyLine` if it is a key with its value behind it. -/
def styleOf (onKeyLine : Bool) (s : List Char) : Style :=
  if readsAsText s && allowsPlain s && !(onKeyLine && s.isEmpty) then .plain
  else if allowsSingle s && !(onKeyLine && isMultiline s) then .single
  else .double

/-! ## Escapes -/

/-- The letters that stand for characters after a backslash. -/
def escapeLetters : List (Nat × Char) :=
  [(0, '0'), (7, 'a'), (8, 'b'), (9, 't'), (10, 'n'), (11, 'v'), (12, 'f'), (13, 'r'), (27, 'e'),
    (0x22, '"'), (0x5C, '\\'), (0x85, 'N'), (0xA0, '_'), (0x2028, 'L'), (0x2029, 'P')]

/-- Whether a character is escaped between double quotes. -/
def isEscaped (c : Char) : Bool :=
  c = '"' || c = '\\' || isBreak c || c.toNat = 0xFEFF
    || !((0x20 ≤ c.toNat && c.toNat ≤ 0x7E) || (0xA0 ≤ c.toNat && c.toNat ≤ 0xD7FF)
      || (0xE000 ≤ c.toNat && c.toNat ≤ 0xFFFD))

/-- Hexadecimal digits in upper case. -/
def upperHex (width n : Nat) : List Char := (Text.hex width n).map Char.toUpper

/-- The escape of a character. -/
def escape (c : Char) : List Char :=
  match escapeLetters.lookup c.toNat with
  | some letter => ['\\', letter]
  | none =>
    if c.toNat ≤ 0xFF then '\\' :: 'x' :: upperHex 2 c.toNat
    else if c.toNat ≤ 0xFFFF then '\\' :: 'u' :: upperHex 4 c.toNat
    else '\\' :: 'U' :: upperHex 8 c.toNat

end RoutePaths.Yaml
