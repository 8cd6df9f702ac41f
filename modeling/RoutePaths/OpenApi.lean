import RoutePaths.Json.Basic
import RoutePaths.Route.Basic
import RoutePaths.Text.Casing
import RoutePaths.UrlPath.Template

/-!
# RoutePaths.OpenApi

The OpenAPI document of a list of routes.  Routes are taken in order:

1. the path of a route is written with its parameters in braces; routes with
   the same path share an item, and items stand in the order of their paths;
2. a route gives its operation to the key of its method, or to every verb if
   it answers any method; the first route that gives a key an operation keeps
   it;
3. a resource declaration is listed under a key of its own and never expanded
   into operations.
-/

namespace RoutePaths.OpenApi

/-! ## Documents -/

/-- A path parameter. -/
structure Parameter where
  name : String
  isOptional : Bool
  deriving Repr, DecidableEq, Inhabited

/-- What a method does on a path. -/
structure Operation where
  summary : String
  parameters : List Parameter
  sourceFile : String
  /-- The line of the declaration, counted from one. -/
  sourceLine : Int
  deriving Repr, DecidableEq, Inhabited

/-- A resource declaration on a path. -/
structure Collection where
  kind : String
  sourceFile : String
  /-- The line of the declaration, counted from one. -/
  sourceLine : Int
  deriving Repr, DecidableEq, Inhabited

/-- The value of a key of a path item. -/
inductive Member where
  | operation (op : Operation)
  | collections (list : List Collection)
  deriving Repr, DecidableEq, Inhabited

/-- What stands under one path. -/
abbrev PathItem := Ledger String Member

/-- A document: its title and the items of its paths. -/
structure Document where
  repoName : String
  paths : Ledger String PathItem
  deriving Repr, Inhabited

/-- Why there is no document. -/
inductive DocumentError where
  /-- The key of resource declarations is taken by the operation of a method of
  the same name. -/
  | keyTaken
  deriving Repr, DecidableEq, Inhabited

/-- The wording of an error. -/
def DocumentError.message : DocumentError → String
  | keyTaken => "'dict' object has no attribute 'append'"

/-! ## Building -/

/-- The verbs of a route that answers any method. -/
def verbs : List String := ["get", "post", "put", "patch", "delete", "options"]

/-- The key of resource declarations. -/
def collectionKey : String := "x-resource-collection"

/-- The keys that a route gives an operation to. -/
def methodKeys (r : Route) : List String :=
  if r.method = "ANY" then verbs else [String.ofList (Text.lower r.method.toList)]

/-- The operation of a route whose path spells a template. -/
def Operation.ofRoute (r : Route) (t : UrlPath.Template) : Operation where
  summary := r.method ++ " " ++ r.rawPath
  parameters := t.names.map fun name => ⟨name, t.isOptional name⟩
  sourceFile := r.sourceFile
  sourceLine := r.lineIndex + 1

/-- The list entry of a resource declaration. -/
def Collection.ofRoute (r : Route) : Collection where
  kind := String.ofList (Text.lower r.method.toList)
  sourceFile := r.sourceFile
  sourceLine := r.lineIndex + 1

/-- The item with an operation for a key that has nothing yet. -/
def PathItem.addOperation (op : Operation) (item : PathItem) (key : String) : PathItem :=
  match item.get? key with
  | none => item.put key (.operation op)
  | some _ => item

/-- The item with one more resource declaration. -/
def PathItem.addCollection (item : PathItem) (c : Collection) : Except DocumentError PathItem :=
  match item.get? collectionKey with
  | none => .ok (item.put collectionKey (.collections [c]))
  | some (.collections list) => .ok (item.put collectionKey (.collections (list ++ [c])))
  | some (.operation _) => .error .keyTaken

/-- The item with what one more route adds. -/
def PathItem.addRoute (item : PathItem) (r : Route) (t : UrlPath.Template) :
    Except DocumentError PathItem :=
  if r.isResource then item.addCollection (.ofRoute r)
  else .ok ((methodKeys r).foldl (PathItem.addOperation (.ofRoute r t)) item)

/-- The items of the paths with what one more route adds. -/
def addRoute (paths : Ledger String PathItem) (r : Route) :
    Except DocumentError (Ledger String PathItem) :=
  let t := UrlPath.Template.ofPath r.resolvedPath
  (((paths.get? t.path).getD []).addRoute r t).map (paths.put t.path)

/-- The routes that the document speaks of. -/
def retained (excludeResources : Bool) (routes : List Route) : List Route :=
  routes.filter fun r => !(r.isResource && excludeResources)

/-- The document of a list of routes. -/
def Document.ofRoutes (repoName : String) (excludeResources : Bool) (routes : List Route) :
    Except DocumentError Document :=
  ((retained excludeResources routes).foldlM addRoute []).map fun paths =>
    ⟨repoName, Ledger.sorted paths⟩

/-! ## As JSON values -/

/-- A parameter as a value; a path parameter is always required. -/
def Parameter.toJson (p : Parameter) : Json :=
  .object ([("name", .string p.name), ("in", .string "path"), ("required", .bool true),
    ("schema", .object [("type", .string "string")])]
    ++ if p.isOptional then [("x-optional", .bool true)] else [])

/-- An operation as a value. -/
def Operation.toJson (op : Operation) : Json :=
  .object ([("summary", .string op.summary),
    ("responses", .object [("200", .object [("description", .string "OK")])]),
    ("x-source-file", .string op.sourceFile), ("x-source-line", .int op.sourceLine)]
    ++ if op.parameters = [] then []
      else [("parameters", .array (op.parameters.map Parameter.toJson))])

/-- A resource declaration as a value. -/
def Collection.toJson (c : Collection) : Json :=
  .object [("kind", .string c.kind), ("x-source-file", .string c.sourceFile),
    ("x-source-line", .int c.sourceLine)]

/-- The value of a key as a value. -/
def Member.toJson : Member → Json
  | operation op => op.toJson
  | collections list => .array (list.map Collection.toJson)

/-- A path item as a value. -/
def PathItem.toJson (item : PathItem) : Json :=
  .object (item.map fun (key, m) => (key, m.toJson))

/-- A document as a value. -/
def Document.toJson (doc : Document) : Json :=
  .object [("openapi", .string "3.0.3"),
    ("info", .object [("title", .string (doc.repoName ++ " routes")),
      ("version", .string "1.0.0"),
      ("description", .string "Generated by laravel-route-paths 0.1.0")]),
    ("paths", .object (doc.paths.map fun (path, item) => (path, item.toJson)))]

/-- The repository name of a document unless another is chosen. -/
def defaultRepoName : String := "laravel-app"

end RoutePaths.OpenApi
