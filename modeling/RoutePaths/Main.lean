import RoutePaths.CommandLine.Command

/-!
# RoutePaths.Main

The program: it reads the part of the disk that a run can look at, carries the
run out, shows what it reported, and writes the file that it wrote.  No git is
called, so a URL is answered as on a machine that has none.
-/

namespace RoutePaths.Program

/-! ## Reading the disk -/

/-- A file or folder with all that is in it. -/
partial def loadEntry (entry : IO.FS.DirEntry) : IO (String × Disk.Node) := do
  if ← entry.path.isDir then
    let entries ← entry.path.readDir
    return (entry.fileName, .folder (← entries.toList.mapM loadEntry))
  else return (entry.fileName, .file (← IO.FS.readBinFile entry.path).toList)

/-- The entries of a project that a scan looks at. -/
def projectEntries : List String := ["composer.lock", "composer.json", "routes"]

/-- What a text names, if there is such a file or folder: of a folder, only
the entries that a scan looks at. -/
def loadSource (path : String) : IO (Option Disk.Node) := do
  try
    let place ← IO.FS.realPath path
    if ← place.isDir then
      let entries := (← place.readDir).toList.filter (projectEntries.contains ·.fileName)
      return some (.folder (← entries.mapM loadEntry))
    else if ← place.pathExists then return some (.file (← IO.FS.readBinFile place).toList)
    else return none
  catch _ => return none

/-- Whether a text names a folder. -/
def isFolder (path : String) : IO Bool := do
  try return ← (← IO.FS.realPath path).isDir
  catch _ => return false

/-- The disk with the folder of a text, unless it has something there. -/
def withFolder (disk : Disk) (path : String) : IO Disk := do
  let place := FilePath.names disk.cwd path
  if (disk.root.get? place).isNone && (← isFolder path) then
    return { disk with root := disk.root.put place (.folder []) }
  else return disk

/-- The disk that a run with the given options looks at. -/
def loadDisk (o : CommandLine.Options) : IO Disk := do
  let cwd := FilePath.names [] (← IO.currentDir).toString
  let disk : Disk := ⟨(Disk.Node.folder []).put cwd (.folder []), cwd⟩
  let disk ← match ← loadSource (if o.source = "" then "." else o.source) with
    | some node => pure { disk with root := disk.root.put (FilePath.names cwd o.source) node }
    | none => pure disk
  match o.output with
  | some path =>
    let disk ← withFolder disk (FilePath.absolute cwd (FilePath.folderName path))
    withFolder disk path
  | none => return disk

/-! ## Running -/

/-- Show what a run reported, in order. -/
def replay (level : Level) (events : List Event) : IO Unit := do
  for event in events do
    IO.print (CommandLine.standardOutput [event])
    IO.eprint (CommandLine.standardError level [event])

/-- Write the file that a run wrote. -/
def writeOutput (disk : Disk) (o : CommandLine.Options) : IO Unit := do
  match o.output.filter (· ≠ "") with
  | none => return
  | some path =>
    match disk.read path with
    | .error _ => return
    | .ok bytes => IO.FS.writeBinFile path (ByteArray.mk bytes.toArray)

/-- The options among the arguments, if they ask for a run. -/
def options? (token : Option String) (args : List String) : Option CommandLine.Options :=
  match CommandLine.Request.ofArguments token args with
  | .ok (.run o) => some o
  | _ => none

end RoutePaths.Program

open RoutePaths in
/-- The command line. -/
def main (args : List String) : IO UInt32 := do
  let token := (← IO.getEnv "GIT_TOKEN").filter (· ≠ "")
  let width := ((← IO.getEnv "COLUMNS").bind String.toNat?).getD 80
  let asked := Program.options? token args
  let disk ← match asked with
    | some o => Program.loadDisk o
    | none => pure ⟨.folder [], []⟩
  let machine : Machine := { disk, clone := .noGit, scratch := ["tmp", "laravel_routes_clone"] }
  let (result, after) := (CommandLine.run width token args).run machine
  Program.replay (CommandLine.logLevel token args) after.events
  match result with
  | .error e =>
    IO.eprintln e.message
    return 1
  | .ok code =>
    if code = 0 then
      if let some o := asked then Program.writeOutput after.disk o
    return UInt32.ofNat code
