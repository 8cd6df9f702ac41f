import RoutePaths.Text.Blank
import RoutePaths.Text.Casing

/-!
# RoutePaths.Text.Match

Recognising pieces of a text from the left.  Every recogniser answers with
what it has read and the rest of the text, or with nothing:

1. `expect` reads a given text, `expectFolded` reads one regardless of case
   and tells how it was spelled;
2. `quoted` reads a non-empty literal between quotes, each of which may be
   single or double; the literal holds neither;
3. `search` is the leftmost place of a text where a recogniser succeeds,
   `ahead` is the leftmost such place before the end of the line.
-/

namespace RoutePaths.Text

/-! ## Literal texts -/

/-- The rest of the text after `word`, if it begins with `word`. -/
def expect : List Char → List Char → Option (List Char)
  | [], s => some s
  | _ :: _, [] => none
  | p :: ps, c :: s => if c = p then expect ps s else none

/-- The spelling of `word` at the start of the text, regardless of case, and
the rest. -/
def expectFolded : List Char → List Char → Option (List Char × List Char)
  | [], s => some ([], s)
  | _ :: _, [] => none
  | p :: ps, c :: s =>
    if foldsTo p c then (expectFolded ps s).map fun (w, rest) => (c :: w, rest) else none

/-- Blanks, a given text, and blanks again. -/
def expectLoose (word s : List Char) : Option (List Char) :=
  (expect word (trimStart s)).map trimStart

/-! ## Quoted literals -/

/-- Whether a character is a single or a double quote. -/
def isQuote (c : Char) : Bool := c = '\'' || c = '"'

/-- The rest of the text after a quote. -/
def expectQuote : List Char → Option (List Char)
  | c :: s => if isQuote c then some s else none
  | [] => none

/-- A quoted literal and the rest of the text. -/
def quoted (s : List Char) : Option (List Char × List Char) :=
  match expectQuote s with
  | none => none
  | some s =>
    match s.takeWhile (!isQuote ·), expectQuote (s.dropWhile (!isQuote ·)) with
    | [], _ => none
    | _, none => none
    | c :: cs, some rest => some (c :: cs, rest)

/-- A quoted literal in parentheses, with blanks around every part but
nothing skipped after the closing parenthesis. -/
def argument (s : List Char) : Option (List Char × List Char) := do
  let s ← expectLoose ['('] s
  let (literal, s) ← quoted s
  let s ← expect [')'] (trimStart s)
  return (literal, s)

/-! ## Searching -/

/-- The answer of `f` at the leftmost place of the text where it has one. -/
def search {α : Type} (f : List Char → Option α) : List Char → Option α
  | [] => f []
  | c :: rest => f (c :: rest) <|> search f rest

/-- The answer of `f` at the leftmost place of the line where it has one. -/
def ahead {α : Type} (f : List Char → Option α) : List Char → Option α
  | [] => f []
  | c :: rest => f (c :: rest) <|> if c = '\n' then none else ahead f rest

/-- Whether `word` occurs in the text. -/
def contains (word s : List Char) : Bool := (search (expect word) s).isSome

end RoutePaths.Text
