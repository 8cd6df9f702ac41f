import RoutePaths.Console.Table
import RoutePaths.Route.Basic

/-!
# RoutePaths.Report

The report on the routes of a project: a table and a summary.

1. The table has one row for each shown route, ordered by file and line; the
   file is shown only if the routes come from several files.
2. The summary counts all routes by method, resources apart, whether they are
   shown or not.
-/

namespace RoutePaths.Report

/-! ## Contents -/

/-- The routes of the table in order. -/
def shown (showResources : Bool) (routes : List Route) : List Route :=
  Route.ordered (if showResources then routes else routes.filter (!·.isResource))

/-- Whether the routes come from several files. -/
def hasManyFiles (routes : List Route) : Bool :=
  1 < (routes.map Route.sourceFile).eraseDups.length

/-- The numbers of the summary. -/
structure Summary where
  total : Nat
  /-- The number of routes of each method, in the order of the methods. -/
  counts : List (String × Nat)
  resources : Nat
  deriving Repr, DecidableEq

/-- The methods of the routes that are no resources, each once, in order. -/
def methods (routes : List Route) : List String :=
  ((routes.filter (!·.isResource)).map Route.method).eraseDups.mergeSort fun a b => decide (a ≤ b)

/-- The summary of routes. -/
def summary (routes : List Route) : Summary where
  total := routes.length
  counts := (methods routes).map fun m => (m, routes.countP fun r => r.method = m)
  resources := routes.countP Route.isResource

/-! ## Layout -/

/-- The colours of methods. -/
def styles : List (String × String) :=
  [("GET", "green"), ("POST", "yellow"), ("PUT", "blue"), ("PATCH", "blue"), ("DELETE", "red"),
   ("OPTIONS", "cyan"), ("ANY", "white"), ("APIRESOURCE", "magenta"), ("RESOURCE", "magenta")]

/-- The colour of a method. -/
def style (method : String) : String := (styles.lookup method).getD "white"

/-- A text between the tags of a style. -/
def tagged (name text : String) : String := "[" ++ name ++ "]" ++ text ++ "[/" ++ name ++ "]"

/-- The text filled up with spaces behind it. -/
def padRight (width : Nat) (s : String) : String :=
  s ++ String.ofList (List.replicate (width - s.length) ' ')

/-- The text filled up with spaces before it. -/
def padLeft (width : Nat) (s : String) : String :=
  String.ofList (List.replicate (width - s.length) ' ') ++ s

/-- The columns of the table. -/
def columns (manyFiles : Bool) (rows : List Route) : List Console.Column :=
  (if manyFiles then
      [{ header := "File", limit := some 30, cells := rows.map (·.sourceFile) }]
    else []) ++
  [{ header := "Line", justify := .right, fixed := some 6,
     cells := rows.map fun r => toString (r.lineIndex + 1) },
   { header := "Method", fixed := some 24,
     cells := rows.map fun r => tagged (style r.method) r.methodLabel },
   { header := "Route Path", limit := some 60, cells := rows.map (·.resolvedPath) },
   { header := "Raw Path", limit := some 40, cells := rows.map (·.rawPath) }]

/-- The lines of the summary, as texts with tags. -/
def summaryTexts (s : Summary) : List String :=
  [tagged "bold" "Summary:", "  Total routes:      " ++ toString s.total]
    ++ s.counts.map (fun (m, n) =>
        "  " ++ padRight 18 (m ++ ":") ++ " " ++ padLeft 4 (toString n))
    ++ if s.resources = 0 then [] else
        ["  " ++ tagged "magenta"
          ("Resource collections (not expanded): " ++ toString s.resources)]

/-- The lines of the report on a console. -/
def lines (screen : Console.Screen) (showResources : Bool) (routes : List Route) :
    Except Console.MarkupError (List (List Char)) := do
  if routes.isEmpty then
    Console.say screen (tagged "yellow" "No routes discovered.").toList
  else
    let rows := shown showResources routes
    let table ← Console.drawTable screen "Laravel Routes" (columns (hasManyFiles routes) rows)
    let texts ← (summaryTexts (summary routes)).mapM fun t => Console.say screen t.toList
    return table ++ Console.blankLine screen.width ++ texts.flatten
      ++ Console.blankLine screen.width

end RoutePaths.Report
