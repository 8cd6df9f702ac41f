import RoutePaths.Route.Basic
import RoutePaths.Text.Split

/-!
# RoutePaths.Marker

Markers that show the full path of a route at the end of its line.  A marker
is a glyph, a label and the path; in annotated text it stands two spaces
behind the line, before a carriage return if the line ends in one.  Several
markers of one line stand in the order of their routes.
-/

namespace RoutePaths.Marker

/-- The glyph of markers unless another is chosen: a puzzle piece. -/
def defaultGlyph : String := "🧩"

/-- The label of markers unless another is chosen. -/
def defaultLabel : String := "Route Path"

/-- The marker of a route. -/
def text (glyph label : String) (r : Route) : String :=
  glyph ++ " " ++ label ++ ": " ++ r.resolvedPath

/-- A line with one more marker. -/
def append (marker : List Char) (line : List Char) : List Char :=
  if line.getLast? = some '\r' then line.dropLast ++ ' ' :: ' ' :: marker ++ ['\r']
  else line ++ ' ' :: ' ' :: marker

/-- The lines with the marker of one more route; a route whose line is not
there changes nothing. -/
def mark (glyph : String) (ls : List (List Char)) (r : Route) : List (List Char) :=
  if 0 ≤ r.lineIndex then
    ls.modify r.lineIndex.toNat (append (text glyph defaultLabel r).toList)
  else ls

/-- The text with the markers of the routes. -/
def annotate (glyph text : String) (routes : List Route) : String :=
  Text.unlines (routes.foldl (mark glyph) (Text.lines text))

end RoutePaths.Marker
