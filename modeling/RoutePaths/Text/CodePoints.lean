import RoutePaths.Text.Quoted
import RoutePaths.Text.Utf8

/-!
# RoutePaths.Text.CodePoints

Texts given by code points, in which half of a surrogate pair may stand alone.
Such a half is no character: where characters are needed, the replacement
character stands for it, and where a text is shown between quotes it is
written as an escape.
-/

namespace RoutePaths.Text

/-- A text given by its code points. -/
abbrev CodePoints := List Nat

/-! ## Halves of pairs -/

/-- Whether a code point is the first half of a surrogate pair. -/
def isHighHalf (n : Nat) : Bool := 0xD800 ≤ n && n < 0xDC00

/-- Whether a code point is the second half of a surrogate pair. -/
def isLowHalf (n : Nat) : Bool := 0xDC00 ≤ n && n < 0xE000

/-- Whether a code point is half of a surrogate pair. -/
def isHalf (n : Nat) : Bool := isHighHalf n || isLowHalf n

/-- The code point of a surrogate pair. -/
def ofPair (high low : Nat) : Nat := 0x10000 + (high - 0xD800) * 0x400 + (low - 0xDC00)

namespace CodePoints

/-- The text in which halves of a pair side by side are one code point. -/
def joinPairs : CodePoints → CodePoints
  | [] => []
  | [n] => [n]
  | high :: low :: rest =>
    if isHighHalf high && isLowHalf low then ofPair high low :: joinPairs rest
    else high :: joinPairs (low :: rest)

/-! ## Characters -/

/-- The code points of characters. -/
def ofChars (s : List Char) : CodePoints := s.map Char.toNat

/-- The code points of a text. -/
def ofString (s : String) : CodePoints := ofChars s.toList

/-- The characters of a text. -/
def chars (s : CodePoints) : List Char :=
  s.map fun n => if isHalf n then replacement else Char.ofNat n

/-- Half of a pair written as an escape. -/
def escapeHalf (n : Nat) : List Char := '\\' :: 'u' :: hex 4 n

/-- The characters of a text, halves of pairs being written as escapes. -/
def escaped (s : CodePoints) : List Char :=
  s.flatMap fun n => if isHalf n then escapeHalf n else [Char.ofNat n]

/-- The text between quotes. -/
def showQuoted (s : CodePoints) : List Char :=
  let q := quoteFor s.chars
  q :: s.flatMap (fun n => if isHalf n then escapeHalf n else showChar q (Char.ofNat n)) ++ [q]

/-! ## Stand-ins -/

/-- The text of characters in which a character of a private plane stands for
each half of a pair. -/
def standIns (s : CodePoints) : List Char :=
  s.map fun n => Char.ofNat (if isHalf n then 0xF0000 + (n - 0xD800) else n)

/-- The text that characters stand for. -/
def ofStandIns (s : List Char) : CodePoints :=
  s.map fun c =>
    if 0xF0000 ≤ c.toNat ∧ c.toNat < 0xF0800 then c.toNat - 0xF0000 + 0xD800 else c.toNat

end CodePoints

end RoutePaths.Text
