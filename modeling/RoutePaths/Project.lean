import RoutePaths.Composer
import RoutePaths.Route.Resolve
import RoutePaths.RouteFile

/-!
# RoutePaths.Project

All routes of a project, or of a single route file:

1. every `.php` file below the folder `routes` is read, in every folder its
   files first and then the folders in it, both by name;
2. the routes of a file are named relative to the project; their prefix is the
   one that was asked for, or else the one that the file's name stands for;
3. a file is read as UTF-8 with any kind of line end; one that cannot be read
   is reported and has no routes;
4. a single file belongs to the folder around its own.
-/

namespace RoutePaths.Project

/-! ## Results -/

/-- The routes of a project. -/
structure Scan where
  root : String
  isLaravel : Bool := false
  version : Option RawJson := none
  routes : List Route := []
  /-- The route files, relative to the root. -/
  files : List String := []
  deriving Inhabited

/-- Why a project cannot be scanned. -/
inductive ScanError where
  /-- A composer file has a value that cannot be used. -/
  | shape (e : Composer.ShapeError)
  /-- The empty text names no file. -/
  | noPath
  /-- The name of a file holds a character that no name can have. -/
  | badName (e : Disk.OpenError)
  deriving Repr, DecidableEq, Inhabited

/-- The wording of an error. -/
def ScanError.message : ScanError → String
  | shape e => e.message
  | noPath => "no path specified"
  | badName e => e.message

/-! ## Files -/

/-- The text of a file. -/
def textOf (bytes : List UInt8) : String :=
  String.ofList (Text.plainNewlines (Text.decodeLossy bytes))

/-- The name under which a file is reported; `none` and the empty text mean the
file as it is named. -/
def reportedName (cwd : List String) (path : String) (relativeTo : Option String) :
    Except ScanError String :=
  match relativeTo.filter (· ≠ "") with
  | none => .ok path
  | some start => if path = "" then .error .noPath else .ok (FilePath.relative cwd path start)

/-- The prefix of the routes of a file. -/
def baseOf (basePrefix : Option String) (name : String) : String :=
  basePrefix.getD (RouteFile.basePrefix name)

/-- The routes of one file. -/
def scanFile (basePrefix : Option String) (path : String) (relativeTo : Option String) :
    Run ScanError (List Route) := do
  let disk := (← get).disk
  let name ← ExceptT.mk (pure (reportedName disk.cwd path relativeTo))
  match disk.read path with
  | .error e =>
    if e.cause = .nullCharacter then throw (.badName e)
    else
      Machine.log .warning ("Cannot read " ++ path) e.message
      return []
  | .ok bytes =>
    let text := textOf bytes
    let base := baseOf basePrefix name
    Machine.log .debug ("Scanning " ++ name ++ " (base prefix " ++ Text.quote base ++ ")")
    Machine.logAll (Route.resolveLog base name text)
    return Route.resolve base name text

/-! ## Projects -/

/-- The places of the route files below a folder. -/
def routeFiles (folder : Disk.Node) : List (List String) :=
  folder.filesBelow.filter fun place => ".php".toList.isSuffixOf (place.getLastD "").toList

/-- The texts of the route files of a project. -/
def routePaths (disk : Disk) (root : String) : List String :=
  let folder := FilePath.join root "routes"
  match disk.node? folder with
  | none => []
  | some node => (routeFiles node).map fun place => place.foldl FilePath.join folder

/-- Add the routes of more files to a scan. -/
def scanFiles (basePrefix : Option String) (scan : Scan) : List String → Run ScanError Scan
  | [] => return scan
  | path :: rest => do
    let disk := (← get).disk
    let found ← scanFile basePrefix path (some scan.root)
    scanFiles basePrefix { scan with
      files := scan.files ++ [FilePath.relative disk.cwd path scan.root]
      routes := scan.routes ++ found } rest

/-- The routes of a single file. -/
def scanSingle (basePrefix : Option String) (path : String) : Run ScanError Scan := do
  let disk := (← get).disk
  let root := FilePath.folderName (FilePath.folderName (FilePath.absolute disk.cwd path))
  let routes ← scanFile basePrefix path (some root)
  return { root, routes, files := [FilePath.relative disk.cwd path root] }

/-- The routes of a project or of a single file. -/
def scan (basePrefix : Option String) (root : String) : Run ScanError Scan := do
  let disk := (← get).disk
  if disk.isFile root then scanSingle basePrefix root
  else
    let found ← (Composer.detect root).mapError .shape
    let scan ← scanFiles basePrefix { root, isLaravel := found.isLaravel, version := found.version }
      (routePaths disk root)
    Machine.log .info ("Found " ++ toString scan.routes.length ++ " route(s) in "
      ++ toString scan.files.length ++ " file(s)")
    return scan

end RoutePaths.Project
