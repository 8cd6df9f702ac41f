import RoutePaths.Text.CodeTable

/-!
# RoutePaths.Text.Blank

Blank characters and trimming.  Blank are the spaces, the separators and the
control characters that move the cursor: tab to carriage return, the four
information separators, next line, the no-break spaces, and the space, line
and paragraph separators of Unicode.
-/

namespace RoutePaths.Text

/-- The code points of blank characters. -/
def blankTable : CodeTable := [
   (0x9, 0xD), (0x1C, 0x20), (0x85, 0x85), (0xA0, 0xA0), (0x1680, 0x1680),
   (0x2000, 0x200A), (0x2028, 0x2029), (0x202F, 0x202F), (0x205F, 0x205F), (0x3000, 0x3000)]

/-- Whether a character is blank. -/
def isBlank (c : Char) : Bool := blankTable.mem c.toNat

/-! ## Trimming -/

/-- The text without its leading blanks. -/
def trimStart (s : List Char) : List Char := s.dropWhile isBlank

/-- The text without its trailing blanks. -/
def trimEnd (s : List Char) : List Char := (s.reverse.dropWhile isBlank).reverse

/-- The text without the blanks around it. -/
def trim (s : List Char) : List Char := trimEnd (trimStart s)

end RoutePaths.Text
