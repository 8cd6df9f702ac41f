import Mathlib.Data.List.Nodup
import RoutePaths.Proofs.Machine.Plain
import RoutePaths.Proofs.Project.Listing
import RoutePaths.Proofs.Route.Records
import RoutePaths.Proofs.Text.Utf8

/-!
# RoutePaths.Proofs.Project.Scan

What a scan finds.  A scan only looks at the disk (`plain_scan`), so every
file is read from the disk that the scan began with; and it fails only where the
composer files cannot be used (`scan_eq`).  Its files are those of the project,
each once and in the order of the listing, and its routes are those of the
files, which can be told apart by the file that they name (`scan_lists_files`).
-/

namespace RoutePaths

/-! ## what scans do to a machine -/

variable {writes : Prop}

namespace Composer

theorem plain_load (path : String) : Plain writes (load path) := by
  refine .look (fun m => ?_) fun _ _ => rfl
  split
  · split
    · exact .pure _
    · split
      · exact .pure _
      · exact (Plain.report rfl).bind fun _ => .pure _
  · exact .pure _

/-- A detection only looks at the disk. -/
theorem plain_detect (root : String) : Plain writes (detect root).run := by
  refine (Plain.run_lift (plain_load _)).run_bind fun locked => ?_
  refine (Plain.run_mk _).run_bind fun version => ?_
  cases version with
  | some version => exact Plain.run_pure _
  | none => exact (Plain.run_lift (plain_load _)).run_bind fun manifest => Plain.run_mk _

end Composer

namespace Project

open Disk.Node (ListedBefore)

variable {basePrefix : Option String} {m : Machine} {path root name : String} {bytes : List UInt8}
  {files : List File} {file : File}

/-- Scanning a file only looks at it. -/
theorem plain_scanFile (basePrefix : Option String) (path : String) (relativeTo : Option String) :
    Plain writes (scanFile basePrefix path relativeTo).run := by
  refine Plain.run_look (fun m => ?_) fun _ _ => rfl
  refine (Plain.run_mk _).run_bind fun name => ?_
  split
  · split
    · exact Plain.run_throw _
    · exact (Plain.run_report rfl).run_bind fun _ => Plain.run_pure _
  · refine (Plain.run_report rfl).run_bind fun _ => ?_
    exact (Plain.run_lift (.logAll _)).run_bind fun _ => Plain.run_pure _

theorem plain_scanFiles (basePrefix : Option String) (scan : Scan) (paths : List String) :
    Plain writes (scanFiles basePrefix scan paths).run := by
  induction paths generalizing scan with
  | nil => exact Plain.run_pure _
  | cons path paths ih =>
    refine Plain.run_look (fun m => ?_) fun _ _ => rfl
    exact (plain_scanFile _ _ _).run_bind fun found => ih _

theorem plain_scanSingle (basePrefix : Option String) (path : String) :
    Plain writes (scanSingle basePrefix path).run := by
  refine Plain.run_look (fun m => ?_) fun _ _ => rfl
  exact (plain_scanFile _ _ _).run_bind fun routes => Plain.run_pure _

/-- **A scan only looks and reports.** -/
theorem plain_scan (basePrefix : Option String) (root : String) :
    Plain writes (scan basePrefix root).run := by
  refine Plain.run_look (fun m => ?_) fun _ _ => rfl
  dsimp only
  split
  · exact plain_scanSingle _ _
  · refine ((Composer.plain_detect root).run_mapError _).run_bind fun found => ?_
    refine (plain_scanFiles _ _ _).run_bind fun scan => ?_
    exact (Plain.run_report rfl).run_bind fun _ => Plain.run_pure _

/-! ## what scans find -/

/-- A file that can be read gives the routes of its text. -/
theorem scanFile_eq_ok (basePrefix : Option String) {relativeTo : Option String}
    (hname : reportedName m.disk.cwd path relativeTo = .ok name)
    (hread : m.disk.read path = .ok bytes) :
    ((scanFile basePrefix path relativeTo).run m).1 =
      .ok (Route.resolve (baseOf basePrefix name) name (textOf bytes)) := by
  have hmk : ((ExceptT.mk (pure (reportedName m.disk.cwd path relativeTo)) :
      Run ScanError String).run m).1 = .ok name := hname
  rw [scanFile, Run.run_get_bind]
  dsimp only
  rw [Run.run_bind_of_ok hmk, hread]
  rfl

/-- **The files of a project**, one after the other: each is named by its name
in the project and gives its own routes. -/
theorem scanFiles_eq_ok (basePrefix : Option String) (hnamed : m.disk.root.WellNamed)
    (scan : Scan) (hroot : scan.root = root) (hfiles : ∀ file ∈ files, file.IsIn m.disk root) :
    ((scanFiles basePrefix scan (files.map fun file => FilePath.join root file.name)).run m).1 =
      .ok { scan with
        files := scan.files ++ files.map File.name
        routes := scan.routes ++ files.flatMap (File.routes basePrefix) } := by
  -- On the files that are left, with the scan so far: each file is read from the
  -- disk as the one before has left it, which is the disk that all are on.
  induction files generalizing scan m with
  | nil =>
    rw [List.map_nil, List.map_nil, List.flatMap_nil, List.append_nil, List.append_nil]
    rfl
  | cons file rest ih =>
    subst hroot
    have hfile := hfiles file (List.mem_cons_self ..)
    have hscan := scanFile_eq_ok basePrefix (hfile.reportedName_eq hnamed m.disk.cwd)
      (hfile.read hnamed)
    have hafter := ((plain_scanFile basePrefix (FilePath.join scan.root file.name)
      (some scan.root)).reported m).disk_eq
    have hrest := ih (hafter.symm ▸ hnamed)
      { scan with
        files := scan.files ++ [file.name]
        routes := scan.routes ++ file.routes basePrefix } rfl
      fun other hother => hafter.symm ▸ hfiles other (List.mem_cons_of_mem file hother)
    rw [List.map_cons, scanFiles, Run.run_get_bind]
    dsimp only
    rw [Run.run_bind_of_ok hscan, hfile.relative_eq hnamed]
    refine hrest.trans ?_
    simp

/-- What a scan of a project finds among the files in it. -/
def Scan.ofFiles (basePrefix : Option String) (root : String) (files : List File)
    (found : Composer.Detection) : Scan where
  root := root
  isLaravel := found.isLaravel
  version := found.version
  routes := files.flatMap (File.routes basePrefix)
  files := files.map File.name

/-- **A scan of a project** fails only where the composer files cannot be used. -/
theorem scan_eq (hnamed : m.disk.root.WellNamed) (hroot : ¬m.disk.isFile root = true) :
    ((scan basePrefix root).run m).1 =
      (((Composer.detect root).run m).1.mapError .shape).map
        (Scan.ofFiles basePrefix root (filesIn m.disk root)) := by
  rw [scan, Run.run_get_bind]
  dsimp only
  rw [if_neg hroot]
  cases hfound : ((Composer.detect root).run m).1 with
  | error e =>
    have hdetect : ((Run.mapError ScanError.shape (Composer.detect root)).run m).1 =
        .error (.shape e) := by rw [Run.run_mapError, hfound]; rfl
    rw [Run.run_bind_of_error hdetect]
    rfl
  | ok found =>
    have hdetect : ((Run.mapError ScanError.shape (Composer.detect root)).run m).1 =
        .ok found := by rw [Run.run_mapError, hfound]; rfl
    -- The files are looked up before the composer files are read, and read after.
    have hafter := (((Composer.plain_detect root).run_mapError ScanError.shape).reported m).disk_eq
    have hscan := scanFiles_eq_ok basePrefix (hafter.symm ▸ hnamed)
      { root, isLaravel := found.isLaravel, version := found.version } rfl
      fun file hfile => hafter.symm ▸ (mem_filesIn_iff hnamed).mp hfile
    rw [Run.run_bind_of_ok hdetect, routePaths_eq hnamed, Run.run_bind_of_ok hscan]
    rfl

/-- A project whose detection gives an answer is scanned: its route files, one after the other. -/
theorem scan_eq_ok (basePrefix : Option String) (hnamed : m.disk.root.WellNamed)
    (hroot : ¬m.disk.isFile root = true) {found : Composer.Detection}
    (hfound : ((Composer.detect root).run m).1 = .ok found) :
    ((scan basePrefix root).run m).1 =
      .ok (Scan.ofFiles basePrefix root (filesIn m.disk root) found) := by
  rw [scan_eq hnamed hroot, hfound]
  rfl

/-! ## the routes of a file among those of a project -/

/-- Files that have different names are told apart by them: the records that name
a file are the records of the file. -/
theorem filter_flatMap_routes (hnodup : (files.map File.name).Nodup) (hfile : file ∈ files) :
    (files.flatMap (File.routes basePrefix)).filter (·.sourceFile = file.name) =
      file.routes basePrefix := by
  have hown : (file.routes basePrefix).filter (·.sourceFile = file.name) =
      file.routes basePrefix :=
    List.filter_eq_self.mpr fun r hr => decide_eq_true (Route.sourceFile_of_mem_resolve hr)
  have hothers : ∀ others : List File, file.name ∉ others.map File.name →
      (others.flatMap (File.routes basePrefix)).filter (·.sourceFile = file.name) = [] := by
    intro others hother
    refine List.filter_eq_nil_iff.mpr fun r hr hname => hother ?_
    obtain ⟨other, hmem, hr⟩ := List.mem_flatMap.mp hr
    rw [← of_decide_eq_true hname, Route.sourceFile_of_mem_resolve hr]
    exact List.mem_map_of_mem hmem
  obtain ⟨front, back, rfl⟩ := List.append_of_mem hfile
  rw [List.map_append, List.map_cons, List.nodup_middle] at hnodup
  have hnot := (List.nodup_cons.mp hnodup).1
  rw [List.mem_append, not_or] at hnot
  rw [List.flatMap_append, List.flatMap_cons, List.filter_append, List.filter_append, hown,
    hothers front hnot.1, hothers back hnot.2, List.nil_append, List.append_nil]

/-- A project that was scanned has the files that a scan goes through. -/
theorem exists_ofFiles_of_scan (hnamed : m.disk.root.WellNamed)
    (hroot : ¬m.disk.isFile root = true) {project : Scan}
    (hscan : ((scan basePrefix root).run m).1 = .ok project) :
    ∃ found, project = Scan.ofFiles basePrefix root (filesIn m.disk root) found := by
  rw [scan_eq hnamed hroot] at hscan
  cases hfound : ((Composer.detect root).run m).1 with
  | error e =>
    rw [hfound] at hscan
    contradiction
  | ok found =>
    rw [hfound] at hscan
    exact ⟨found, (Except.ok.inj hscan).symm⟩

/-- What a scan of a project says of a file in it. -/
theorem filter_routes_of_scan (hnamed : m.disk.root.WellNamed)
    (hroot : ¬m.disk.isFile root = true) {project : Scan}
    (hscan : ((scan basePrefix root).run m).1 = .ok project) (hfile : file.IsIn m.disk root) :
    file.name ∈ project.files ∧
      project.routes.filter (·.sourceFile = file.name) = file.routes basePrefix := by
  obtain ⟨found, rfl⟩ := exists_ofFiles_of_scan hnamed hroot hscan
  have hmem := (mem_filesIn_iff hnamed).mpr hfile
  exact ⟨List.mem_map_of_mem hmem, filter_flatMap_routes (nodup_names_filesIn hnamed) hmem⟩

/-- The routes of a file are those of the one text that its bytes are read as. -/
theorem exists_readsAs (basePrefix : Option String) (file : File) :
    ∃ text, (∀ other, Text.ReadsAs file.bytes other ↔ other = text) ∧
      file.routes basePrefix =
        Route.resolve (baseOf basePrefix file.name) file.name text :=
  ⟨textOf file.bytes, fun _ => Text.readsAs_iff, rfl⟩

/-- **A scan of a project loses nothing and finds nothing twice**: its files are
the `.php` files below `routes`, each once, files before folders and both by
name; its routes are those of the files in this order, read from the one text
that the bytes of a file spell; and the routes that name a file are its routes,
in the order of their lines. -/
theorem scan_lists_files (basePrefix : Option String) {found : Composer.Detection}
    (hnamed : m.disk.root.WellNamed) (hroot : ¬m.disk.isFile root = true)
    (hfound : ((Composer.detect root).run m).1 = .ok found) :
    ∃ (project : Scan) (files : List File), ((scan basePrefix root).run m).1 = .ok project ∧
      files.Pairwise (ListedBefore ·.place ·.place) ∧
      (∀ file, file ∈ files ↔ file.IsIn m.disk root) ∧
      project.files = files.map File.name ∧ project.files.Nodup ∧
      project.routes = files.flatMap (File.routes basePrefix) ∧
      ∀ file ∈ files, m.disk.read (FilePath.join root file.name) = .ok file.bytes ∧
        (∃ text, (∀ other, Text.ReadsAs file.bytes other ↔ other = text) ∧
          file.routes basePrefix =
            Route.resolve (baseOf basePrefix file.name) file.name text) ∧
        project.routes.filter (·.sourceFile = file.name) = file.routes basePrefix ∧
        (file.routes basePrefix).Pairwise (·.lineIndex < ·.lineIndex) := by
  have hnodup : ((filesIn m.disk root).map File.name).Nodup := nodup_names_filesIn hnamed
  refine ⟨_, filesIn m.disk root, scan_eq_ok basePrefix hnamed hroot hfound,
    pairwise_filesIn hnamed, fun file => mem_filesIn_iff hnamed, rfl, hnodup, rfl, ?_⟩
  intro file hfile
  exact ⟨((mem_filesIn_iff hnamed).mp hfile).read hnamed, exists_readsAs basePrefix file,
    filter_flatMap_routes hnodup hfile, Route.pairwise_lineIndex_resolve ..⟩

/-- A folder that is called like a file, a name at two depths, a file that is no
route file, and an empty folder.  The lines of one file end in two characters,
and in the other a character breaks off. -/
theorem scan_lists_files_nested :
    let api := Text.encode "<?php\r\nRoute::get('/users', f);\r\n"
    let old := Text.encode "Route::post('/caf" ++ 0xC3 :: Text.encode "', f);"
    let routes : Disk.Node := .folder [("old.php", .folder [("api.php", .file old)]),
      ("notes.txt", .file []), ("api.php", .file api), ("empty", .folder [])]
    let m : Machine := ⟨⟨.folder [("app", .folder [("routes", routes)])], []⟩, .noGit, ["tmp"], []⟩
    let users : Route := ⟨1, "GET", "/users", "/api/users", "", "routes/api.php"⟩
    let cafe : Route := ⟨0, "POST", "/caf\uFFFD", "/api/caf\uFFFD", "", "routes/old.php/api.php"⟩
    m.disk.root.WellNamed ∧ ¬m.disk.isFile "app" = true ∧
      ((Composer.detect "app").run m).1 = .ok ⟨false, none⟩ ∧
      Text.ReadsAs api "<?php\nRoute::get('/users', f);\n" ∧
      Text.ReadsAs old "Route::post('/caf\uFFFD', f);" ∧
      ∃ (project : Scan) (files : List File), ((scan none "app").run m).1 = .ok project ∧
        project.files = ["routes/api.php", "routes/old.php/api.php"] ∧
        project.routes = [users, cafe] ∧
        files.Pairwise (ListedBefore ·.place ·.place) ∧
        (∀ file, file ∈ files ↔ file.IsIn m.disk "app") ∧
        project.files = files.map File.name ∧ project.files.Nodup ∧
        project.routes = files.flatMap (File.routes none) ∧
        ∀ file ∈ files, m.disk.read (FilePath.join "app" file.name) = .ok file.bytes ∧
          (∃ text, (∀ other, Text.ReadsAs file.bytes other ↔ other = text) ∧
            file.routes none = Route.resolve (baseOf none file.name) file.name text) ∧
          project.routes.filter (·.sourceFile = file.name) = file.routes none ∧
          (file.routes none).Pairwise (·.lineIndex < ·.lineIndex) := by
  intro api old routes m users cafe
  have hnamed : m.disk.root.WellNamed := by decide
  have hroot : ¬m.disk.isFile "app" = true := by decide
  have hfound : ((Composer.detect "app").run m).1 = .ok ⟨false, none⟩ := rfl
  obtain ⟨project, files, hscan, hordered, hmem, hnames, hnodup, hroutes, hall⟩ :=
    scan_lists_files none hnamed hroot hfound
  have hplaces : routeFiles routes = [["api.php"], ["old.php", "api.php"]] := by
    simp +decide [routes, routeFiles, Disk.Node.filesBelow_folder, Disk.Node.fileNames,
      Disk.Node.foldersOf, Ledger.sorted, Disk.Node.isFolder, List.mergeSort,
      List.MergeSort.Internal.splitInTwo]
  have hlisted : filesIn m.disk "app" = [⟨["api.php"], api⟩, ⟨["old.php", "api.php"], old⟩] := by
    change (routeFiles routes).filterMap (file? routes) = _
    rw [hplaces]
    rfl
  have husers : File.routes none ⟨["api.php"], api⟩ = [users] := by decide +kernel
  have hcafe : File.routes none ⟨["old.php", "api.php"], old⟩ = [cafe] := by decide +kernel
  obtain rfl : Scan.ofFiles none "app" (filesIn m.disk "app") ⟨false, none⟩ = project :=
    Except.ok.inj ((scan_eq_ok none hnamed hroot hfound).symm.trans hscan)
  have hapi : Text.ReadsAs api "<?php\nRoute::get('/users', f);\n" :=
    Text.readsAs_iff.mpr (by decide +kernel)
  have hold : Text.ReadsAs old "Route::post('/caf\uFFFD', f);" :=
    Text.readsAs_iff.mpr (by decide +kernel)
  refine ⟨hnamed, hroot, hfound, hapi, hold, _, files, hscan, ?_, ?_, hordered, hmem, hnames,
    hnodup, hroutes, hall⟩
  · rw [Scan.ofFiles, hlisted]
    decide
  · rw [Scan.ofFiles, hlisted, List.flatMap_cons, List.flatMap_cons, husers, hcafe]
    rfl

end Project

end RoutePaths
