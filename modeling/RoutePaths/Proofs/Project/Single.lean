import RoutePaths.Proofs.Project.Scan

/-!
# RoutePaths.Proofs.Project.Single

A route file that is scanned by itself.  The scan takes the folder two steps up
for the root of the project, so it names the file by its last two names
(`File.shortName`), as if every route file stood directly in `routes`.  Of a file
further down it then does not see the folder `routes`, and may miss the prefix
that a scan of the project gives to the file (`scan_single_agrees_iff`).
-/

namespace RoutePaths.Project

variable {basePrefix : Option String} {m : Machine} {root path : String} {file : File}
  {disk : Disk}

/-! ## the last two names -/

namespace File

/-- The last two names of a file, with the folder `routes` for the first one of a
file that stands directly in it. -/
def shortName (file : File) : String :=
  "/".intercalate (("routes" :: file.place).drop (file.place.length - 1))

theorem exists_shortName (h : file.place ≠ []) :
    ∃ front x y, "routes" :: file.place = front ++ [x, y] ∧ file.shortName = x ++ "/" ++ y := by
  rcases List.eq_nil_or_concat file.place with hnil | ⟨init, y, hplace⟩
  · contradiction
  rcases List.eq_nil_or_concat ("routes" :: init) with hnil | ⟨front, x, hfront⟩
  · contradiction
  have hlength : front.length = init.length := by simpa using (congrArg List.length hfront).symm
  have hway : "routes" :: file.place = front ++ [x, y] := by
    rw [hplace, List.concat_eq_append, ← List.cons_append, hfront]
    simp
  refine ⟨front, x, y, hway, ?_⟩
  rw [shortName, hway, hplace, List.length_concat, Nat.add_sub_cancel, ← hlength,
    List.drop_left, String.intercalate_cons_cons, String.intercalate_singleton]

/-- The name of a file ends with its short name. -/
theorem name_eq_or (h : file.place ≠ []) :
    file.name = file.shortName ∨ ∃ folder, file.name = folder ++ "/" ++ file.shortName := by
  obtain ⟨front, x, y, hway, hshort⟩ := exists_shortName h
  have hlast : "/".intercalate [x, y] = file.shortName := by
    rw [hshort, String.intercalate_cons_cons, String.intercalate_singleton]
  by_cases hfront : front = []
  · left
    rw [name, hway, hfront, List.nil_append, hlast]
  · right
    refine ⟨"/".intercalate front, ?_⟩
    rw [name, hway, String.intercalate_append_of_ne_nil hfront (List.cons_ne_nil x [y]), hlast]

/-- The prefix of a file can be told from its short name, if this is the name of
a route file; if not, none is. -/
theorem basePrefix_shortName (h : file.place ≠ []) :
    RouteFile.basePrefix file.shortName =
      if RouteFile.isRouteFile file.shortName then RouteFile.basePrefix file.name else "" := by
  split
  · next hshort =>
    rcases name_eq_or h with hname | ⟨folder, hname⟩
    · rw [hname]
    · rw [hname, RouteFile.basePrefix_append hshort]
  · next hshort => exact RouteFile.basePrefix_of_not_isRouteFile hshort

/-- When the two names of a file stand for the same prefix. -/
theorem pieces_baseOf_eq_iff (h : file.place ≠ []) :
    UrlPath.pieces (baseOf basePrefix file.name).toList =
        UrlPath.pieces (baseOf basePrefix file.shortName).toList ↔
      basePrefix.isSome ∨ RouteFile.basePrefix file.name = "" ∨
        RouteFile.isRouteFile file.shortName := by
  cases basePrefix with
  | some base => exact iff_of_true rfl (.inl rfl)
  | none =>
    rw [baseOf, baseOf, Option.getD_none, Option.getD_none, basePrefix_shortName h]
    split
    · next hshort => exact iff_of_true rfl (.inr (.inr hshort))
    · next hshort =>
      by_cases hbase : RouteFile.basePrefix file.name = ""
      · exact iff_of_true (by rw [hbase]) (.inr (.inl hbase))
      · exact iff_of_false (RouteFile.pieces_basePrefix_ne_nil hbase) (by simp [hbase, hshort])

/-- A text that leads to a file of a project spells the same way as the name of
the file, joined to the root. -/
theorem IsIn.names_of_locate (h : file.IsIn disk root) (hsound : disk.Sound)
    (hpath : disk.locate path = disk.locate (FilePath.join root file.name)) :
    FilePath.names disk.cwd path = FilePath.names disk.cwd root ++ "routes" :: file.place ∧
      path ≠ "" ∧ ∀ name ∈ FilePath.names disk.cwd path, Disk.IsName name := by
  obtain ⟨es, hcwd⟩ := hsound.hasCwd
  have hcwd' : ∀ name ∈ disk.cwd, Disk.IsName name := fun name hname =>
    hsound.wellNamed.isName_of_mem hcwd hname
  obtain ⟨way, hway, hget⟩ := h.exists_way
  have hjoin := h.locate_join_name hsound.wellNamed hway
  have hlocate := hpath.trans hjoin
  have hnames := Disk.names_of_locate hcwd' hlocate
  refine ⟨?_, (Disk.locate_eq_ok_iff.mp hlocate).2.1, ?_⟩
  · rw [hnames, ← Disk.names_of_locate hcwd' hjoin, h.names_join_name hsound.wellNamed]
  · rw [hnames]
    exact fun name hname => hsound.wellNamed.isName_of_mem hget hname

end File

/-! ## scans of single files -/

/-- **A file that is scanned by itself** is named by its last two names. -/
theorem scan_single_eq_ok (basePrefix : Option String) (hsound : m.disk.Sound)
    (hfile : file.IsIn m.disk root)
    (hpath : m.disk.locate path = m.disk.locate (FilePath.join root file.name)) :
    ∃ single, ((scan basePrefix path).run m).1 = .ok single ∧
      single.files = [file.shortName] ∧
      single.routes =
        Route.resolve (baseOf basePrefix file.shortName) file.shortName (textOf file.bytes) := by
  -- The path and the name of the file spell one way from the root, whatever steps
  -- back the path takes, so the last two names are the same.
  obtain ⟨hnames, hpathne, hall⟩ := hfile.names_of_locate hsound hpath
  obtain ⟨front, x, y, hplace, hshort⟩ := File.exists_shortName hfile.place_ne_nil
  rw [hplace, ← List.append_assoc] at hnames
  obtain ⟨way, hway, hget⟩ := hfile.exists_way
  have hlocate := hpath.trans (hfile.locate_join_name hsound.wellNamed hway)
  have hisFile : m.disk.isFile path = true :=
    Disk.isFile_of_node? (Disk.node?_eq_some_iff.mpr ⟨_, hlocate, hget⟩)
  have hrelative := FilePath.relative_twoUp hnames hall
  rw [← hshort] at hrelative
  have hscan : ((scanFile basePrefix path (some (FilePath.folderName (FilePath.folderName
      (FilePath.absolute m.disk.cwd path))))).run m).1 =
        .ok (Route.resolve (baseOf basePrefix file.shortName) file.shortName
          (textOf file.bytes)) := by
    refine scanFile_eq_ok basePrefix ?_ (Disk.read_eq_ok hlocate hget)
    simp [reportedName, Option.filter, FilePath.folderName_twoUp_ne_empty hnames hall, hpathne,
      hrelative]
  rw [scan, Run.run_get_bind]
  dsimp only
  rw [if_pos hisFile, scanSingle, Run.run_get_bind]
  dsimp only
  rw [Run.run_bind_of_ok hscan, hrelative]
  exact ⟨_, rfl, rfl, rfl⟩

/-- **Scanned by itself or in its project**: a file has the same records, apart
from its name, if a prefix was asked for, if it has no records or no prefix of its
own, or if its last two names tell that it is a route file — and else not. -/
theorem scan_single_agrees_iff (hsound : m.disk.Sound) (hroot : ¬m.disk.isFile root = true)
    {project : Scan} (hscan : ((scan basePrefix root).run m).1 = .ok project)
    (hfile : file.IsIn m.disk root)
    (hpath : m.disk.locate path = m.disk.locate (FilePath.join root file.name)) :
    ∃ single, ((scan basePrefix path).run m).1 = .ok single ∧
      (single.routes.map Route.unnamed =
          (project.routes.filter (·.sourceFile = file.name)).map Route.unnamed ↔
        basePrefix.isSome ∨ file.routes basePrefix = [] ∨
          RouteFile.basePrefix file.name = "" ∨ RouteFile.isRouteFile file.shortName) := by
  obtain ⟨single, hsingle, -, hroutes⟩ := scan_single_eq_ok basePrefix hsound hfile hpath
  refine ⟨single, hsingle, ?_⟩
  have hempty : Route.resolve (baseOf basePrefix file.name) "" (textOf file.bytes) = [] ↔
      file.routes basePrefix = [] := by
    rw [← Route.map_unnamed_resolve _ file.name, List.map_eq_nil_iff, File.routes]
  rw [(filter_routes_of_scan hsound.wellNamed hroot hscan hfile).2, hroutes, eq_comm,
    ← hempty, File.routes, Route.map_unnamed_resolve, Route.map_unnamed_resolve,
    Route.resolve_eq_resolve_iff, File.pieces_baseOf_eq_iff hfile.place_ne_nil]
  exact or_left_comm

/-- The file is two folders down, and the second one is called `routes` again; the
path takes a step back on the way. -/
theorem scan_single_agrees_iff_nested :
    let bytes := "Route::get('/users', f);".toList.map fun c => UInt8.ofNat c.toNat
    let file : File := ⟨["v1", "routes", "api.php"], bytes⟩
    let routes : Disk.Node :=
      .folder [("v1", .folder [("routes", .folder [("api.php", .file file.bytes)])])]
    let m : Machine := ⟨⟨.folder [("app", .folder [("routes", routes)])], ["app"]⟩, .noGit, [], []⟩
    let project := Scan.ofFiles none "/app" (filesIn m.disk "/app") ⟨false, none⟩
    let path := "../app/routes/v1/routes/api.php"
    m.disk.Sound ∧ ¬m.disk.isFile "/app" = true ∧ ((scan none "/app").run m).1 = .ok project ∧
      file.IsIn m.disk "/app" ∧
      m.disk.locate path = m.disk.locate (FilePath.join "/app" file.name) ∧
      ∃ single, ((scan none path).run m).1 = .ok single ∧
        (single.routes.map Route.unnamed =
            (project.routes.filter (·.sourceFile = file.name)).map Route.unnamed ↔
          (none : Option String).isSome ∨ file.routes none = [] ∨
            RouteFile.basePrefix file.name = "" ∨ RouteFile.isRouteFile file.shortName) := by
  intro bytes file routes m project path
  have hsound : m.disk.Sound := ⟨by decide, _, rfl⟩
  have hroot : ¬m.disk.isFile "/app" = true := by decide
  have hscan : ((scan none "/app").run m).1 = .ok project :=
    scan_eq_ok none hsound.wellNamed hroot rfl
  have hfile : file.IsIn m.disk "/app" := ⟨⟨routes, rfl, rfl⟩, by decide⟩
  have hpath : m.disk.locate path = m.disk.locate (FilePath.join "/app" file.name) := by decide
  exact ⟨hsound, hroot, hscan, hfile, hpath,
    scan_single_agrees_iff hsound hroot hscan hfile hpath⟩

/-- **A file one folder down** loses the prefix that its project gives to it. -/
theorem scan_single_loses_prefix :
    let bytes := "Route::get('/users', f);".toList.map fun c => UInt8.ofNat c.toNat
    let file : File := ⟨["admin", "api.php"], bytes⟩
    let routes : Disk.Node := .folder [("admin", .folder [("api.php", .file file.bytes)])]
    let m : Machine := ⟨⟨.folder [("app", .folder [("routes", routes)])], []⟩, .noGit, [], []⟩
    ∃ project single, ((scan none "app").run m).1 = .ok project ∧ file.IsIn m.disk "app" ∧
      ((scan none "app/routes/admin/api.php").run m).1 = .ok single ∧
      project.routes.filter (·.sourceFile = file.name) =
        [⟨0, "GET", "/users", "/api/users", "", "routes/admin/api.php"⟩] ∧
      single.routes = [⟨0, "GET", "/users", "/users", "", "admin/api.php"⟩] ∧
      single.routes.map Route.unnamed ≠
        (project.routes.filter (·.sourceFile = file.name)).map Route.unnamed := by
  intro bytes file routes m
  have hsound : m.disk.Sound := ⟨by decide, _, rfl⟩
  have hroot : ¬m.disk.isFile "app" = true := by decide
  have hfile : file.IsIn m.disk "app" := ⟨⟨routes, rfl, rfl⟩, by decide⟩
  have hpath : m.disk.locate "app/routes/admin/api.php" =
      m.disk.locate (FilePath.join "app" file.name) := by decide
  have htext : textOf file.bytes = "Route::get('/users', f);" := by decide
  have hscan : ((scan none "app").run m).1 =
      .ok (Scan.ofFiles none "app" (filesIn m.disk "app") ⟨false, none⟩) :=
    scan_eq_ok none hsound.wellNamed hroot rfl
  obtain ⟨single, hsingle, -, hroutes⟩ := scan_single_eq_ok none hsound hfile hpath
  obtain ⟨-, hrecords⟩ := filter_routes_of_scan hsound.wellNamed hroot hscan hfile
  have hproject : file.routes none =
      [⟨0, "GET", "/users", "/api/users", "", "routes/admin/api.php"⟩] := by
    rw [File.routes, htext]
    decide
  have hsolo : single.routes = [⟨0, "GET", "/users", "/users", "", "admin/api.php"⟩] := by
    rw [hroutes, htext]
    decide
  refine ⟨_, single, hscan, hfile, hsingle, hrecords.trans hproject, hsolo, ?_⟩
  rw [hrecords, hproject, hsolo]
  decide

end RoutePaths.Project
