import RoutePaths.Disk.FilePath
import RoutePaths.Disk.Tree
import RoutePaths.Text.Quoted

/-!
# RoutePaths.Disk.Basic

A disk: a tree of files and a working folder.  A text is looked up piece by
piece; every piece but the last has to lead to a folder, an empty piece and a
single dot stay where they are, two dots go to the folder around, and the
empty text names nothing at all.
-/

namespace RoutePaths

/-- A tree of files and the way to the working folder. -/
structure Disk where
  root : Disk.Node
  cwd : List String
  deriving Inhabited

namespace Disk

/-! ## Errors -/

/-- Why a file cannot be opened. -/
inductive Cause where
  /-- There is no such file. -/
  | missing
  /-- A piece before the last is a file. -/
  | notFolder
  /-- It is a folder. -/
  | isFolder
  /-- The text holds a character that no name can have. -/
  | nullCharacter
  deriving Repr, DecidableEq, Inhabited

/-- Why the file of a text cannot be opened. -/
structure OpenError where
  cause : Cause
  path : String
  deriving Repr, DecidableEq, Inhabited

/-- The wording of an error. -/
def OpenError.message (e : OpenError) : String :=
  match e.cause with
  | .missing => "[Errno 2] No such file or directory: " ++ Text.quote e.path
  | .notFolder => "[Errno 20] Not a directory: " ++ Text.quote e.path
  | .isFolder => "[Errno 21] Is a directory: " ++ Text.quote e.path
  | .nullCharacter => "embedded null byte"

/-! ## Looking up -/

/-- The way after more pieces. -/
def walk (root : Node) : List String → List String → Except Cause (List String)
  | way, [] => .ok way
  | way, piece :: rest =>
    match root.get? way with
    | none => .error .missing
    | some (.file _) => .error .notFolder
    | some (.folder _) =>
      if piece = "" || piece = "." then walk root way rest
      else if piece = ".." then walk root way.dropLast rest
      else walk root (way ++ [piece]) rest

/-- Where the lookup of a text begins. -/
def start (disk : Disk) (path : String) : List String :=
  if FilePath.isAbsolute path then [] else disk.cwd

/-- The way to what a text names; the last name need not exist. -/
def locate (disk : Disk) (path : String) : Except Cause (List String) :=
  if path.toList.any (·.toNat = 0) then .error .nullCharacter
  else if path = "" then .error .missing
  else walk disk.root (disk.start path) (FilePath.pieces path)

/-- The file or folder that a text names. -/
def node? (disk : Disk) (path : String) : Option Node :=
  match disk.locate path with
  | .ok way => disk.root.get? way
  | .error _ => none

/-- Whether a text names a file. -/
def isFile (disk : Disk) (path : String) : Bool := (disk.node? path).any (!·.isFolder)

/-- Whether a text names a folder. -/
def isFolder (disk : Disk) (path : String) : Bool := (disk.node? path).any (·.isFolder)

/-! ## Reading and writing -/

/-- The bytes of a file. -/
def read (disk : Disk) (path : String) : Except OpenError (List UInt8) :=
  match disk.locate path with
  | .error cause => .error ⟨cause, path⟩
  | .ok way =>
    match disk.root.get? way with
    | none => .error ⟨.missing, path⟩
    | some (.folder _) => .error ⟨.isFolder, path⟩
    | some (.file bytes) => .ok bytes

/-- The way to the file that writing to a text goes to.  The folder of the file
has to exist, and a text that ends in a slash or in dots names no file. -/
def target (disk : Disk) (path : String) : Except Cause (List String) :=
  if path.toList.any (·.toNat = 0) then .error .nullCharacter
  else if path = "" then .error .missing
  else
    let spelled := FilePath.pieces path
    let kept := (spelled.reverse.dropWhile (· = "")).reverse
    match walk disk.root (disk.start path) kept.dropLast, kept.getLast? with
    | .error cause, _ => .error cause
    | .ok _, none => .error .isFolder
    | .ok way, some name =>
      match disk.root.get? way with
      | none => .error .missing
      | some (.file _) => .error .notFolder
      | some (.folder _) =>
        if name = "." || name = ".." || kept.length < spelled.length then .error .isFolder
        else if (disk.root.get? (way ++ [name])).any (·.isFolder) then .error .isFolder
        else .ok (way ++ [name])

/-- The disk with a file of the given bytes. -/
def write (disk : Disk) (path : String) (bytes : List UInt8) : Except OpenError Disk :=
  match disk.target path with
  | .error cause => .error ⟨cause, path⟩
  | .ok way => .ok { disk with root := disk.root.put way (.file bytes) }

/-- The disk with bytes behind those that the file has already. -/
def append (disk : Disk) (path : String) (bytes : List UInt8) : Except OpenError Disk :=
  match disk.target path with
  | .error cause => .error ⟨cause, path⟩
  | .ok way =>
    let before := match disk.root.get? way with
      | some (.file old) => old
      | _ => []
    .ok { disk with root := disk.root.put way (.file (before ++ bytes)) }

end Disk

end RoutePaths
