import RoutePaths.Text.Match

/-!
# RoutePaths.Route.Call

Route declarations in the text of a line:

1. a declaration is `Route::`, a verb, an opening parenthesis and a quoted
   path, with blanks allowed around the parenthesis;
2. `Route::` and the verb may be spelled in any case;
3. a line declares at most one route, the leftmost.
-/

namespace RoutePaths

/-- A declaration as it stands in the text. -/
structure Call where
  /-- The verb in upper case. -/
  method : List Char
  /-- The path literal. -/
  path : List Char
  deriving Repr, DecidableEq

namespace Call

/-- The verbs that declare routes. -/
def verbs : List (List Char) :=
  ["get".toList, "post".toList, "put".toList, "delete".toList, "patch".toList, "options".toList,
    "any".toList, "apiResource".toList, "resource".toList]

/-- The verb at the start of the text and the rest. -/
def verb? (s : List Char) : Option (List Char × List Char) :=
  verbs.findSome? (Text.expectFolded · s)

/-- The declaration at the start of the text. -/
def here? (s : List Char) : Option Call := do
  let (_, s) ← Text.expectFolded "Route::".toList s
  let (verb, s) ← verb? s
  let s ← Text.expectLoose ['('] s
  let (path, _) ← Text.quoted s
  return ⟨verb.map Text.upperChar, path⟩

/-- The leftmost declaration of a line. -/
def find? (line : List Char) : Option Call := Text.search here? line

end Call

end RoutePaths
