import RoutePaths.Console.Markup
import RoutePaths.OpenApi
import RoutePaths.Project

/-!
# RoutePaths.Failure

Everything that can stop a run, apart from a source that gives no project.
-/

namespace RoutePaths

/-- Halves of surrogate pairs, which have no encoding. -/
structure EncodingError where
  /-- The place of the first one in the text that was to be written. -/
  position : Nat
  /-- All that stand there side by side. -/
  halves : Text.CodePoints
  deriving Repr, DecidableEq, Inhabited

/-- The wording of an error. -/
def EncodingError.message (e : EncodingError) : String :=
  "'utf-8' codec can't encode "
    ++ (match e.halves with
      | [half] => "character '" ++ String.ofList (Text.CodePoints.escapeHalf half)
          ++ "' in position " ++ toString e.position
      | halves => "characters in position " ++ toString e.position ++ "-"
          ++ toString (e.position + halves.length - 1))
    ++ ": surrogates not allowed\n"
    ++ "*** You may need to add PYTHONIOENCODING=utf-8 to your environment ***"

/-- The first halves of pairs in a text. -/
def EncodingError.first? (text : Text.CodePoints) : Option EncodingError :=
  match text.dropWhile (!Text.isHalf ·) with
  | [] => none
  | rest => some ⟨text.length - rest.length, rest.takeWhile Text.isHalf⟩

/-- Why a run stops. -/
inductive Failure where
  /-- The project cannot be scanned. -/
  | scan (e : Project.ScanError)
  /-- A file cannot be opened. -/
  | file (e : Disk.OpenError)
  /-- A text cannot be shown on the console. -/
  | markup (e : Console.MarkupError)
  /-- The routes have no document. -/
  | document (e : OpenApi.DocumentError)
  /-- A text cannot be written to the standard output. -/
  | encoding (e : EncodingError)
  deriving Repr, DecidableEq, Inhabited

/-- The wording of a failure. -/
def Failure.message : Failure → String
  | scan e => e.message
  | file e => e.message
  | markup e => e.message
  | document e => e.message
  | encoding e => e.message

namespace Run

variable {α : Type}

/-- The bytes of a file. -/
def readFile (path : String) : Run Failure (List UInt8) := do
  let m ← get
  ExceptT.mk (pure ((m.disk.read path).mapError .file))

/-- Write a file. -/
def writeFile (path text : String) : Run Failure Unit := do
  let m ← get
  match m.disk.write path (Text.encode text) with
  | .error e => throw (.file e)
  | .ok disk => set { m with disk }

/-- Write behind what a file holds already. -/
def appendFile (path text : String) : Run Failure Unit := do
  let m ← get
  match m.disk.append path (Text.encode text) with
  | .error e => throw (.file e)
  | .ok disk => set { m with disk }

/-- The document of the routes of a scan, which has the name of its root. -/
def documentOf (scan : Project.Scan) (excludeResources : Bool) : Run Failure Json := do
  let doc ← ExceptT.mk (pure ((OpenApi.Document.ofRoutes (FilePath.baseName scan.root)
    excludeResources scan.routes).mapError .document))
  return doc.toJson

end Run

end RoutePaths
