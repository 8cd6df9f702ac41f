import RoutePaths.Text.Split

/-!
# RoutePaths.UrlPath.Basic

Composing URL paths from pieces that may or may not carry slashes:

1. `collapse` writes every run of slashes as one slash;
2. `nest` puts the prefix of a group behind that of the group around it; a
   prefix without a group around it is only collapsed;
3. `build` is the absolute path of a list of segments: the slashes around a
   segment and segments without anything else do not count, so the path of
   nothing at all is a single slash.
-/

namespace RoutePaths.UrlPath

/-- The path with one slash for every run of slashes. -/
def collapse : List Char → List Char
  | [] => []
  | c :: rest =>
    if c = '/' ∧ rest.head? = some '/' then collapse rest else c :: collapse rest

/-- The prefix `child` inside a group whose own prefix is `parent`. -/
def nest (parent child : List Char) : List Char :=
  if parent = [] then collapse child else collapse (parent ++ '/' :: child)

/-- The segment without the slashes around it. -/
def strip (segment : List Char) : List Char :=
  ((segment.dropWhile (· = '/')).reverse.dropWhile (· = '/')).reverse

/-- The absolute path made of the segments. -/
def build (segments : List (List Char)) : List Char :=
  collapse ('/' :: Text.joinWith ['/'] ((segments.map strip).filter (· ≠ [])))

/-- The non-empty pieces of a path between its slashes. -/
def pieces (path : List Char) : List (List Char) :=
  (Text.splitOn '/' path).filter (· ≠ [])

end RoutePaths.UrlPath
