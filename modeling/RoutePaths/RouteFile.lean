import RoutePaths.Text.Digit
import RoutePaths.Text.Match
import RoutePaths.Text.Split

/-!
# RoutePaths.RouteFile

Which files hold routes, and the prefix that a file's name stands for:

1. a route file is a `.php` file somewhere below a directory `routes`; the
   directories of the path may be separated by slashes or backslashes;
2. the routes of `api.php` are served below `api`, those of `api_v1.php`,
   `api_v2.php` and so on below `api/v1`, `api/v2` and so on;
3. other route files have no prefix of their own.
-/

namespace RoutePaths.RouteFile

/-- The path with slashes for backslashes. -/
def slashed (path : String) : List Char := path.toList.map fun c => if c = '\\' then '/' else c

/-- Whether a path names a file of routes. -/
def isRouteFile (path : String) : Bool :=
  ".php".toList.isSuffixOf path.toList
    && (Text.splitOn '/' (slashed path)).dropLast.contains "routes".toList

/-- The last part of a path. -/
def name (path : String) : List Char := (Text.splitOn '/' (slashed path)).getLastD []

/-- The version in a name such as `api_v2.php`, with its letter. -/
def version? (name : List Char) : Option (List Char) := do
  let s ← Text.expect "api_v".toList name
  guard (0 < (s.takeWhile Text.isDigit).length)
  guard (s.dropWhile Text.isDigit = ".php".toList)
  return 'v' :: s.takeWhile Text.isDigit

/-- The prefix that the name of a route file stands for. -/
def basePrefix (path : String) : String :=
  if !isRouteFile path then ""
  else if name path = "api.php".toList then "api"
  else match version? (name path) with
    | some version => String.ofList ("api/".toList ++ version)
    | none => ""

end RoutePaths.RouteFile
