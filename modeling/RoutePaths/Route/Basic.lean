/-!
# RoutePaths.Route.Basic

The routes of a routes file.  A route is an HTTP method and a path; resource
declarations stand for a whole collection of routes and are kept as one record
that is not expanded.
-/

namespace RoutePaths

/-- A route declared on one line of a routes file. -/
structure Route where
  /-- The line of the declaration, counted from zero. -/
  lineIndex : Int
  /-- The verb of the declaration in upper case. -/
  method : String
  /-- The path literal of the declaration. -/
  rawPath : String
  /-- The full path, with the prefixes of the file and of all groups. -/
  resolvedPath : String
  /-- The prefix of the groups around the declaration. -/
  groupPrefix : String
  /-- The file of the declaration. -/
  sourceFile : String
  deriving Repr, DecidableEq, Inhabited

namespace Route

/-- The methods that stand for a collection of routes. -/
def resourceMethods : List String := ["APIRESOURCE", "RESOURCE"]

/-- Whether the record stands for a collection of routes. -/
def isResource (r : Route) : Bool := resourceMethods.contains r.method

/-- The method as it is shown to readers. -/
def methodLabel (r : Route) : String :=
  if r.isResource then r.method ++ " (Multiple)" else r.method

/-- Whether a route stands before another, or both stand on one line. -/
def precedes (a b : Route) : Bool :=
  a.sourceFile < b.sourceFile || (a.sourceFile = b.sourceFile && a.lineIndex ≤ b.lineIndex)

/-- The routes by file and line; those of one line keep their order. -/
def ordered (routes : List Route) : List Route := routes.mergeSort precedes

end Route

end RoutePaths
