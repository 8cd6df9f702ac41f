import RoutePaths.Console.Layout

/-!
# RoutePaths.Console.Table

Tables drawn with box characters, under a centred title:

1. a column has a fixed width or is as wide as its widest cell, up to a
   limit; a cell has a space on either side;
2. if the table is wider than the console, the widest of the columns without a
   fixed width are narrowed first, down to the next widest, and if that does
   not suffice all columns are narrowed evenly;
3. a row is as high as its highest cell; the header stands at the bottom of
   its row and is set off by a heavy line.
-/

namespace RoutePaths.Console

open RoutePaths.Text

/-- A column of a table. -/
structure Column where
  header : String
  justify : Justify := .left
  /-- The width without padding, if it is fixed. -/
  fixed : Option Nat := none
  /-- The greatest width without padding. -/
  limit : Option Nat := none
  /-- The cells, as texts with tags. -/
  cells : List String
  deriving Repr, Inhabited

/-! ## Measuring -/

/-- Whether a character ends a line of a measured text. -/
def endsLine (c : Char) : Bool :=
  c = '\n' || c = '\r' || c.toNat = 11 || c.toNat = 12 || (0x1C ≤ c.toNat && c.toNat ≤ 0x1E)
    || c.toNat = 0x85 || c.toNat = 0x2028 || c.toNat = 0x2029

/-- The width of the widest line of a text. -/
def naturalWidth (s : List Char) : Nat :=
  ((s.splitBy fun a b => endsLine a = endsLine b).map fun run =>
    if run.head?.any endsLine then 0 else cellWidth run).foldl max 0

/-- The width of a cell with its padding, on a console of some width. -/
def cellMeasure (read : Reader) (avail : Nat) (cell : String) : Except MarkupError Nat :=
  if avail < 3 then .ok avail
  else do
    let shown ← read cell.toList
    return min avail (min avail (naturalWidth shown.chars) + 2)

/-- The width of a column with its padding, on a console of some width. -/
def columnMeasure (read : Reader) (avail : Nat) (column : Column) : Except MarkupError Nat :=
  if avail = 0 then .ok 0
  else match column.fixed with
    | some width => .ok (min avail (width + 2))
    | none => do
      let widths ← (column.header :: column.cells).mapM (cellMeasure read avail)
      let width := min avail (widths.foldl max 0)
      return match column.limit with
        | none => width
        | some limit => min width (limit + 2)

/-! ## Narrowing -/

/-- The nearest whole number of a quotient, the even one of two. -/
def roundQuotient (n d : Nat) : Nat :=
  let q := n / d
  let twice := 2 * (n % d)
  if twice < d || (twice = d && q % 2 = 0) then q else q + 1

/-- Take `total` from values in the given ratios, `shares` being the sum of
the ratios left, and from no value more than its greatest reduction. -/
def reduceFrom (total shares : Nat) : List (Nat × Nat × Nat) → List Nat
  | [] => []
  | (ratio, most, value) :: rest =>
    if ratio ≠ 0 ∧ 0 < shares then
      let taken := min most (roundQuotient (ratio * total) shares)
      (value - taken) :: reduceFrom (total - taken) (shares - ratio) rest
    else value :: reduceFrom total shares rest

/-- Take `total` from values in the given ratios, from none more than its
greatest reduction. -/
def reduce (total : Nat) (ratios greatest values : List Nat) : List Nat :=
  let ratios := (ratios.zip greatest).map fun (ratio, most) => if most = 0 then 0 else ratio
  if sumOf ratios = 0 then values
  else reduceFrom total (sumOf ratios) (ratios.zip (greatest.zip values))

/-- Narrow the widest of the flexible columns, in at most `fuel` rounds, until
the columns fit into `avail`. -/
def collapse (avail : Nat) (flexible : List Bool) : Nat → List Nat → List Nat
  | 0, widths => widths
  | fuel + 1, widths =>
    let excess := sumOf widths - avail
    if sumOf widths = 0 || excess = 0 then widths
    else
      let pairs := widths.zip flexible
      let widest := (pairs.map fun (w, f) => if f then w else 0).foldl max 0
      let second := (pairs.map fun (w, f) => if f && w ≠ widest then w else 0).foldl max 0
      let ratios := pairs.map fun (w, f) => if f && w = widest then 1 else 0
      if sumOf ratios = 0 || widest = second then widths
      else
        let most := min excess (widest - second)
        collapse avail flexible fuel (reduce excess ratios (widths.map fun _ => most) widths)

/-- The widths of the columns with their padding. -/
def columnWidths (read : Reader) (avail : Nat) (columns : List Column) :
    Except MarkupError (List Nat) := do
  let widths := (← columns.mapM (columnMeasure read avail)).map fun w => if w = 0 then 1 else w
  if sumOf widths ≤ avail then return widths
  let flexible := columns.map (·.fixed.isNone)
  let narrowed := if flexible.any id then collapse avail flexible (sumOf widths) widths else widths
  let narrowed :=
    if sumOf narrowed ≤ avail then narrowed
    else reduce (sumOf narrowed - avail) (narrowed.map fun _ => 1) narrowed narrowed
  (narrowed.zip columns).mapM fun (width, column) => columnMeasure read width column

/-! ## Drawing -/

/-- The lines of a cell of some width with its padding.  A line that was cut may
fall short of the width; fitting it once more fills it up. -/
def cellLines (read : Reader) (width : Nat) (justify : Justify) (cell : String) :
    Except MarkupError (List Line) :=
  if width < 3 then .ok []
  else do
    let shown ← read cell.toList
    let lines ← draw (layout (width - 2) .ellipsis justify shown)
    return lines.map fun line =>
      (Line.fit width ([' '] :: line.fit (width - 2) ++ [[' ']])).fit width

/-- The lines of a cell made `height` lines high by blank lines at one end. -/
def raise (height width : Nat) (atBottom : Bool) (ls : List Line) : List Line :=
  let blank := List.replicate (height - ls.length) [List.replicate width ' ']
  if atBottom then blank ++ ls else ls ++ blank

/-- The lines of cells side by side between bars. -/
def besides (bar : Char) : Nat → List (List Line) → List Line
  | 0, _ => []
  | height + 1, cells =>
    ([bar] :: (cells.map fun ls => ls.headD [] ++ [[bar]]).flatten)
      :: besides bar height (cells.map List.tail)

/-- The lines of a row of cells. -/
def rowLines (read : Reader) (bar : Char) (isHeader : Bool) (columns : List (Nat × Justify))
    (cells : List String) : Except MarkupError (List Line) := do
  let drawn ← (columns.zip cells).mapM fun ((width, justify), cell) =>
    cellLines read width justify cell
  let height := max 1 ((drawn.map List.length).foldl max 0)
  return besides bar height
    ((drawn.zip columns).map fun (ls, width, _) => raise height width isHeader ls)

/-- A line across the table. -/
def rule (left dash cross right : Char) (widths : List Nat) : Line :=
  [left :: joinWith [cross] (widths.map fun w => List.replicate w dash) ++ [right]]

/-- The rows of cells of some columns. -/
def rowsOf : Nat → List Column → List (List String)
  | 0, _ => []
  | count + 1, columns =>
    columns.map (·.cells.headD "")
      :: rowsOf count (columns.map fun c => { c with cells := c.cells.tail })

/-- The lines of a table under a title. -/
def drawTable (screen : Screen) (title : String) (columns : List Column) :
    Except MarkupError (List (List Char)) := do
  if screen.width = 0 then return []
  let widths ← columnWidths screen.read (screen.width - (columns.length + 1)) columns
  let tableWidth := sumOf widths + columns.length + 1
  let titleLines ←
    draw (layout tableWidth .fold .center (← screen.read title.toList))
  let placed := widths.zip (columns.map (·.justify))
  let header ← rowLines screen.read '┃' true placed (columns.map (·.header))
  let count := (columns.map (·.cells.length)).foldl max 0
  let body ← (rowsOf count columns).mapM (rowLines screen.read '│' false placed)
  return (titleLines
    ++ rule '┏' '━' '┳' '┓' widths :: header
    ++ rule '┡' '━' '╇' '┩' widths :: body.flatten
    ++ [rule '└' '─' '┴' '┘' widths]).map fun line => (line.crop screen.width).chars

end RoutePaths.Console
