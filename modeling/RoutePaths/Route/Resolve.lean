import RoutePaths.Group.Scan
import RoutePaths.Route.Basic
import RoutePaths.Route.Call

/-!
# RoutePaths.Route.Resolve

The routes of one routes file.  Every line that declares a route gives one
record, in line order; its full path is built from the prefix of the file, the
prefix in force on the line, and the literal of the declaration.
-/

namespace RoutePaths

namespace Route

/-- The record of a declaration on line `index`. -/
def ofCall (base sourceFile : String) (index : Nat) (groupPrefix : List Char) (call : Call) :
    Route where
  lineIndex := index
  method := String.ofList call.method
  rawPath := String.ofList call.path
  resolvedPath := String.ofList (UrlPath.build [base.toList, groupPrefix, call.path])
  groupPrefix := String.ofList groupPrefix
  sourceFile := sourceFile

/-- The records of the lines from line `index` on, where `prefixOf` gives the
prefix in force on each line. -/
def extractFrom (base sourceFile : String) (prefixOf : Nat → List Char) :
    Nat → List (List Char) → List Route
  | _, [] => []
  | index, line :: rest =>
    match Call.find? (Text.trim line) with
    | none => extractFrom base sourceFile prefixOf (index + 1) rest
    | some call =>
      ofCall base sourceFile index (prefixOf index) call
        :: extractFrom base sourceFile prefixOf (index + 1) rest

/-- The routes of a text whose prefixes in force are known. -/
def extract (base sourceFile : String) (prefixOf : Nat → List Char) (text : String) : List Route :=
  extractFrom base sourceFile prefixOf 0 (Text.lines text)

/-- The routes of a text. -/
def resolve (base sourceFile text : String) : List Route :=
  let prefixes := Group.linePrefixes Group.Form.all text
  extract base sourceFile (fun index => prefixes.getD index []) text

/-- What the log says of resolving a text. -/
def resolveLog (base sourceFile text : String) : List LogRecord :=
  let final := Group.Scan.run Group.Form.all {} (Text.lines text)
  final.imbalance?.toList ++
    [{ level := .debug
       message := "Resolved " ++ toString (resolve base sourceFile text).length ++ " route(s)"
        ++ if sourceFile = "" then "" else " in " ++ sourceFile }]

end Route

end RoutePaths
