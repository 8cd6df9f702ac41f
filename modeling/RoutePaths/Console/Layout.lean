import RoutePaths.Console.Highlight
import RoutePaths.Console.Markup
import RoutePaths.Text.CellWidth

/-!
# RoutePaths.Console.Layout

Breaking a text into lines of a given number of cells:

1. every line feed ends a line, and tabs go to the next multiple of eight;
2. a line is broken before the first word that does not fit; the blanks behind
   a word belong to it, but those that stick out are dropped;
3. a word wider than a line is folded over several lines, or stands on a line
   of its own and is cut with an ellipsis;
4. lines may be left as they are, or filled up with spaces on the right, on
   the left or on both sides.

A line is drawn as the runs that its styled parts make, and cut or filled by
their widths: that can differ from the width of the text, because a joiner or
a selector does not act beyond its run.
-/

namespace RoutePaths.Console

open RoutePaths.Text

/-- What to do with what sticks out of a line. -/
inductive Overflow where
  | fold
  | ellipsis
  deriving Repr, DecidableEq, Inhabited

/-- Where a line stands in its width. -/
inductive Justify where
  | unfilled
  | left
  | center
  | right
  deriving Repr, DecidableEq, Inhabited

/-! ## Tabs -/

/-- The places behind the occurrences of a character, counted from `place`. -/
def placesBehind (c : Char) (place : Nat) : List Char → List Nat
  | [] => []
  | d :: rest =>
    if d = c then (place + 1) :: placesBehind c (place + 1) rest
    else placesBehind c (place + 1) rest

/-- Parts that end in a tab, or end the line, with spaces for their tabs: the
first begins at a cell `column`. -/
def expandTabs (column : Nat) : List Styled → List Styled
  | [] => []
  | part :: parts =>
    if part.chars.getLast? = some '\t' then
      let part := part.withChars (part.chars.dropLast ++ [' '])
      let reached := column + cellWidth part.chars
      let spaces := (8 - reached % 8) % 8
      part.extend spaces :: expandTabs (reached + spaces) parts
    else part :: expandTabs (column + cellWidth part.chars) parts

/-- The line with spaces for its tabs. -/
def withoutTabs (line : Styled) : Styled :=
  match placesBehind '\t' 0 line.chars with
  | [] => line
  | places => Styled.concat (expandTabs 0 (line.cutAt places))

/-! ## Words -/

/-- Words from runs of blank and other characters, behind a text `lead`. -/
def joinRuns (lead : List Char) : List (List Char) → List (List Char)
  | [] => []
  | run :: rest =>
    if run.head?.any isBlank then joinRuns (lead ++ run) rest
    else match rest with
      | [] => [lead ++ run]
      | gap :: rest => (lead ++ run ++ gap) :: joinRuns [] rest

/-- The words of a line, each with the blanks behind it, and the first with
those before it. -/
def words (line : List Char) : List (List Char) :=
  joinRuns [] (line.splitBy fun a b => isBlank a = isBlank b)

/-! ## Breaking -/

/-- The places behind all folded parts of a word but the last, after `start`. -/
def foldPlaces (start : Nat) : List (List Char) → List Nat
  | [] => []
  | [_] => if start = 0 then [] else [start]
  | part :: parts => (if start = 0 then [] else [start]) ++ foldPlaces (start + part.length) parts

/-- The places where a line is broken: `start` characters stand before the
words, `used` cells of the current line are taken. -/
def breakPlaces (width : Nat) (overflow : Overflow) : Nat → Nat → List (List Char) → List Nat
  | _, _, [] => []
  | start, used, word :: rest =>
    let next := start + word.length
    let here := if start = 0 then [] else [start]
    if used + cellWidth (trimEnd word) ≤ width then
      breakPlaces width overflow next (used + cellWidth word) rest
    else if width < cellWidth (trimEnd word) then
      match overflow with
      | .fold =>
        let parts := foldCells width word
        foldPlaces start parts
          ++ breakPlaces width overflow next (cellWidth (parts.getLastD [])) rest
      | .ellipsis => here ++ breakPlaces width overflow next (cellWidth word) rest
    else if used = 0 || start = 0 then breakPlaces width overflow next used rest
    else here ++ breakPlaces width overflow next (cellWidth word) rest

/-- The line without the blanks that stick out at its end. -/
def dropExcess (width : Nat) (line : Styled) : Styled :=
  let size := line.chars.length
  let blanks := size - (trimEnd line.chars).length
  line.withChars (line.chars.take (size - min blanks (size - width)))

/-! ## Filling -/

/-- The line cut to a width. -/
def truncate (width : Nat) (overflow : Overflow) (line : Styled) : Styled :=
  if cellWidth line.chars ≤ width then line
  else match overflow with
    | .fold => line.withChars (fitCells width line.chars)
    | .ellipsis => line.withChars (fitCells (width - 1) line.chars ++ ['…'])

/-- The line put in its place. -/
def justified (width : Nat) (overflow : Overflow) : Justify → Styled → Styled
  | .unfilled, line => line
  | .left, line => (truncate width overflow line).fill (width - cellWidth line.chars)
  | .center, line =>
    let line := truncate width overflow (line.withChars (trimEnd line.chars))
    let line := line.indent ((width - cellWidth line.chars) / 2)
    line.fill (width - cellWidth line.chars)
  | .right, line =>
    let line := truncate width overflow (line.withChars (trimEnd line.chars))
    line.indent (width - cellWidth line.chars)

/-! ## Whole texts -/

/-- The places of the occurrences of a character, before and behind each. -/
def placesAround (c : Char) (s : List Char) : List Nat :=
  (placesBehind c 0 s).flatMap fun place => [place - 1, place]

/-- The lines of a text: what stands between its line feeds. -/
def linesOf (t : Styled) : List Styled :=
  (t.cutAt (placesAround '\n' t.chars)).filter fun part => part.chars ≠ ['\n']

/-- The lines of a text in a width. -/
def layout (width : Nat) (overflow : Overflow) (justify : Justify) (t : Styled) : List Styled :=
  (linesOf t).flatMap fun line =>
    let line := withoutTabs line
    (line.cutAt (breakPlaces width overflow 0 0 (words line.chars))).map fun part =>
      truncate width overflow (justified width overflow justify (dropExcess width part))

/-! ## Drawing -/

/-- A line of the console: runs that are measured one by one. -/
abbrev Line := List (List Char)

/-- The sum of widths. -/
def sumOf (widths : List Nat) : Nat := widths.foldr (· + ·) 0

namespace Line

/-- The number of cells a line takes. -/
def cells (line : Line) : Nat := sumOf (line.map cellWidth)

/-- The characters of a line. -/
def chars (line : Line) : List Char := line.flatten

/-- The runs that fit into a width of which `used` cells are taken; the first
one that reaches its end is fitted to what is left, and ends the line. -/
def cutFrom (width : Nat) : Nat → Line → Line
  | _, [] => []
  | used, run :: runs =>
    if used + cellWidth run < width then run :: cutFrom width (used + cellWidth run) runs
    else [fitCells (width - used) run]

/-- The line cut to a width. -/
def crop (width : Nat) (line : Line) : Line :=
  if width < line.cells then cutFrom width 0 line else line

/-- The line made as wide as asked for: cut, or filled up with spaces. -/
def fit (width : Nat) (line : Line) : Line :=
  if line.cells < width then line ++ [List.replicate (width - line.cells) ' ']
  else crop width line

end Line

/-- The lines as they are drawn; a style that cannot be looked up is an
error. -/
def draw (lines : List Styled) : Except MarkupError (List Line) :=
  match lines.findSome? Styled.fault? with
  | some e => .error (.colour e)
  | none => .ok (lines.map Styled.runs)

/-- The blank line that a console of some width shows: none if it has no cell. -/
def blankLine (width : Nat) : List (List Char) := if width = 0 then [] else [[]]

/-- What a console shows for a text with tags, in which some parts stand out by
themselves. -/
def say (screen : Screen) (s : List Char) : Except MarkupError (List (List Char)) := do
  let shown := highlight (← screen.read s)
  if screen.width = 0 then return []
  let lines ← draw (layout screen.width .fold .unfilled shown)
  return lines.map fun line => (line.crop screen.width).chars

end RoutePaths.Console
