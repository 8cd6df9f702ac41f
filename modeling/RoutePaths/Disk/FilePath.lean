import RoutePaths.Text.Split

/-!
# RoutePaths.Disk.FilePath

Texts that name files.  A text beginning with a slash names a file from the
root on, any other from the working folder on:

1. `names` is the way from the root as a list of names: empty pieces and
   single dots do not count, and two dots take back the name before them;
2. `absolute` is the text of that way, `relative` the text of the way from
   one folder to another file, with two dots for every step up.

Both go by the text alone; whether the file exists plays no part.
-/

namespace RoutePaths.FilePath

/-! ## Pieces of a text -/

/-- The pieces of a text between its slashes. -/
def pieces (path : String) : List String := (Text.splitOn '/' path.toList).map String.ofList

/-- Whether a text names a file from the root on. -/
def isAbsolute (path : String) : Bool := path.toList.head? = some '/'

/-- The text of a file named from a folder on. -/
def join (folder path : String) : String :=
  if isAbsolute path then path
  else if folder = "" || folder.toList.getLast? = some '/' then folder ++ path
  else folder ++ "/" ++ path

/-- The last piece of a text. -/
def baseName (path : String) : String := (pieces path).getLastD ""

/-- The text before the last piece, without the slashes between them. -/
def folderName (path : String) : String :=
  let before := (path.toList.reverse.dropWhile (· ≠ '/')).reverse
  if before.all (· = '/') then String.ofList before
  else String.ofList (before.reverse.dropWhile (· = '/')).reverse

/-! ## Ways -/

/-- The way made longer by one piece; it is given last name first. -/
def stepTo (way : List String) (piece : String) : List String :=
  if piece = "" || piece = "." then way
  else if piece = ".." then way.tail
  else piece :: way

/-- The way from the root that the pieces spell. -/
def normal (pieces : List String) : List String := (pieces.foldl stepTo []).reverse

/-- The way from the root to a file, named in the folder at the end of the way
`cwd`. -/
def names (cwd : List String) (path : String) : List String :=
  normal (if isAbsolute path then pieces path else cwd ++ pieces path)

/-- The text of a way from the root. -/
def ofNames (way : List String) : String := "/" ++ "/".intercalate way

/-- The slashes that an absolute text begins with: two are kept, any other
number means one. -/
def rootOf (path : String) : String :=
  if (path.toList.takeWhile (· = '/')).length = 2 then "//" else "/"

/-- The absolute text of a file. -/
def absolute (cwd : List String) (path : String) : String :=
  rootOf path ++ "/".intercalate (names cwd path)

/-- The names that follow the longest common beginning of two ways. -/
def apart : List String → List String → List String × List String
  | a :: as, b :: bs => if a = b then apart as bs else (a :: as, b :: bs)
  | as, bs => (as, bs)

/-- The text of the way from the folder `start` to a file. -/
def relative (cwd : List String) (path start : String) : String :=
  let (up, down) := apart (names cwd start) (names cwd path)
  match up.map (fun _ => "..") ++ down with
  | [] => "."
  | way => "/".intercalate way

end RoutePaths.FilePath
