import RoutePaths.Machine
import RoutePaths.Text.Blank

/-!
# RoutePaths.Source

Where a project comes from.  A source is a URL, which is cloned into a folder
made for it, or the text of a file on the disk:

1. a project is a folder that holds a folder `routes`; a single file with the
   extension `.php` will do as well;
2. a token goes into the URL right behind `https://` and nowhere else;
3. the folder of a clone stays until it is cleaned up, whatever became of the
   clone, and cleaning up takes away nothing else.
-/

namespace RoutePaths.Source

/-! ## Errors -/

/-- Why a source gives no project. -/
inductive SourceError where
  | timedOut
  | noGit
  | cloneFailed (report : String)
  | notRouteFile (path : String)
  | missing (path : String)
  | noRoutes (path : String)
  deriving Repr, DecidableEq, Inhabited

/-- The time limit of a clone, in seconds. -/
def timeLimit : Nat := 120

/-- The wording of an error. -/
def SourceError.message : SourceError → String
  | timedOut => "Git clone timed out after " ++ toString timeLimit ++ " seconds"
  | noGit => "git is not installed or not in PATH"
  | cloneFailed report => "Git clone failed: " ++ String.ofList (Text.trim report.toList)
  | notRouteFile path => "Not a PHP route file: " ++ path
  | missing path => "Path does not exist: " ++ path
  | noRoutes path => "Not a Laravel project (no routes/ directory): " ++ path

/-! ## URLs -/

/-- The beginnings of URLs. -/
def schemes : List String := ["https://", "http://", "git@", "git://"]

/-- Whether a source is a URL. -/
def isUrl (source : String) : Bool := schemes.any fun s => s.toList.isPrefixOf source.toList

/-- The URL with a token in it; a token that is not there is spelled as a
word. -/
def withToken (source : String) (token : Option String) : String :=
  if "https://".toList.isPrefixOf source.toList then
    "https://" ++ token.getD "None" ++ "@" ++ String.ofList (source.toList.drop 8)
  else source

/-- The URL that git is given; an empty token is none. -/
def cloneUrl (source : String) (token : Option String) : String :=
  match token with
  | none => source
  | some "" => source
  | some token => withToken source (some token)

/-! ## Resolving -/

/-- The absolute text of a project or route file. -/
def validate (disk : Disk) (path : String) : Except SourceError String :=
  let path := FilePath.absolute disk.cwd path
  if disk.isFile path then
    if ".php".toList.isSuffixOf path.toList then .ok path else .error (.notRouteFile path)
  else if !disk.isFolder path then .error (.missing path)
  else if !disk.isFolder (FilePath.join path "routes") then .error (.noRoutes path)
  else .ok path

/-- The disk with a folder of the given entries at the scratch place. -/
def place (m : Machine) (entries : List (String × Disk.Node)) : Machine :=
  { m with disk := { m.disk with root := m.disk.root.put m.scratch (.folder entries) } }

/-- Clone a URL into the scratch folder. -/
def clone (source : String) (token : Option String) : Step (Except SourceError String) := do
  modify fun m => place m []
  Machine.log .info ("Cloning " ++ source ++ " ...")
  let m ← get
  let folder := FilePath.ofNames m.scratch
  Machine.report
    (.called ["git", "clone", "--depth", "1", cloneUrl source token, folder] timeLimit)
  match m.clone with
  | .timedOut => return .error .timedOut
  | .noGit => return .error .noGit
  | .failed report => return .error (.cloneFailed report)
  | .fetched entries =>
    modify fun m => place m entries
    return validate (← get).disk folder

/-- The absolute text of the project or route file of a source. -/
def resolve (source : String) (token : Option String) : Step (Except SourceError String) := do
  if isUrl source then clone source token
  else return validate (← get).disk source

/-- Take away what resolving a source has left behind. -/
def cleanUp (source : String) : Step Unit := do
  if isUrl source then
    modify fun m => { m with disk := { m.disk with root := m.disk.root.remove m.scratch } }

end RoutePaths.Source
