import RoutePaths.Proofs.Editor.Display
import RoutePaths.Proofs.Project.Scan

/-!
# RoutePaths.Proofs.Project.Document

What an editor shows for a file of a project.  The editor guesses the prefix of a
file from the path that it has opened the file by, and a scan from the path
relative to the root.  The two are the same, since folders in front of the path
of a route file make no difference; so the markers in the editor are those of the
records that a scan of the project has for the file.
-/

namespace RoutePaths.Project

open Editor (Decoration Document Session)

variable {m : Machine} {root folder : String} {file : File} {disk : Disk}

/-- The routes of an opened file are those of the file in its project, but for the
name of the file. -/
theorem File.IsIn.routes_document (h : file.IsIn disk root) {doc : Document}
    (hname : doc.fileName = some (folder ++ "/" ++ file.name))
    (htext : doc.text = textOf file.bytes) :
    doc.routes = (file.routes none).map Route.unnamed := by
  have hbase : RouteFile.basePrefix (folder ++ "/" ++ file.name) = baseOf none file.name :=
    RouteFile.basePrefix_append h.isRouteFile_name folder
  rw [Document.routes, hname, htext, Option.map_some, Option.getD_some, hbase, File.routes,
    Route.map_unnamed_resolve]

/-- **An editor shows what a scan reports**: one marker for each record of the
file, in their order, on the same line and with the same path. -/
theorem refresh_shows_records (hnamed : m.disk.root.WellNamed)
    (hroot : ¬m.disk.isFile root = true) {project : Scan}
    (hscan : ((scan none root).run m).1 = .ok project) (hfile : file.IsIn m.disk root)
    {s : Session} (henabled : s.isEnabled = true) (hactive : s.handle.isActive = true)
    {doc : Document} (hname : doc.fileName = some (folder ++ "/" ++ file.name))
    (htext : doc.text = textOf file.bytes) :
    let shown : List Decoration :=
      (project.routes.filter (·.sourceFile = file.name)).map fun r =>
        ⟨r.lineIndex, Marker.text s.config.glyph s.config.label r⟩
    file.name ∈ project.files ∧
      ∃ after, s.refresh doc = .ok (shown, after) ∧ after.handle.get doc.id = .ok shown := by
  obtain ⟨hlisted, hrecords⟩ := filter_routes_of_scan hnamed hroot hscan hfile
  have hmarkers : s.markers doc = (file.routes none).map fun r =>
      ⟨r.lineIndex, Marker.text s.config.glyph s.config.label r⟩ := by
    rw [Session.markers, hfile.routes_document hname htext, List.map_map]
    rfl
  have hdoc : doc.isRouteFile = true := by
    rw [Document.isRouteFile, hname]
    exact RouteFile.isRouteFile_append hfile.isRouteFile_name folder
  obtain ⟨before, hhandle⟩ := Editor.Handle.exists_of_isActive hactive
  intro shown
  have hshown : s.markers doc = shown := by rw [hmarkers, ← hrecords]
  refine ⟨hlisted, { s with handle := ⟨some (before.put doc.id shown)⟩ }, ?_, ?_⟩
  · rw [Session.refresh, henabled, hdoc, Bool.true_and, if_pos rfl, hshown, hhandle,
      Editor.Handle.set_some]
    rfl
  · rw [Editor.Handle.get_some, Ledger.get?_put_self, Option.getD_some]

/-- A file two folders down, below a second folder `routes` and a folder with a
backslash in its name, opened by a path with another backslash. -/
theorem refresh_shows_records_nested :
    let bytes := "Route::get('/users', f);".toList.map fun c => UInt8.ofNat c.toNat
    let file : File := ⟨["a\\b", "routes", "api_v2.php"], bytes⟩
    let routes : Disk.Node := .folder [("a\\b", .folder [("routes", .folder [("api_v2.php",
      .file file.bytes)])])]
    let m : Machine := ⟨⟨.folder [("app", .folder [("routes", routes)])], []⟩, .noGit, ["tmp"], []⟩
    let project := Scan.ofFiles none "app" (filesIn m.disk "app") ⟨false, none⟩
    let s : Session := { handle := ⟨some [("1", [⟨7, "old"⟩])]⟩ }
    let doc : Document := ⟨"1", some ("C:\\work" ++ "/" ++ file.name), "Route::get('/users', f);"⟩
    let shown : List Decoration :=
      (project.routes.filter (·.sourceFile = file.name)).map fun r =>
        ⟨r.lineIndex, Marker.text s.config.glyph s.config.label r⟩
    m.disk.root.WellNamed ∧ ¬m.disk.isFile "app" = true ∧
      ((scan none "app").run m).1 = .ok project ∧ file.IsIn m.disk "app" ∧
      s.isEnabled = true ∧ s.handle.isActive = true ∧ doc.text = textOf file.bytes ∧
      file.name ∈ project.files ∧
        ∃ after, s.refresh doc = .ok (shown, after) ∧ after.handle.get doc.id = .ok shown := by
  intro bytes file routes m project s doc shown
  have hnamed : m.disk.root.WellNamed := by decide
  have hroot : ¬m.disk.isFile "app" = true := by decide
  have hscan : ((scan none "app").run m).1 = .ok project := scan_eq_ok none hnamed hroot rfl
  have hfile : file.IsIn m.disk "app" := ⟨⟨routes, rfl, rfl⟩, by decide⟩
  have hname : doc.fileName = some ("C:\\work" ++ "/" ++ file.name) := rfl
  have htext : doc.text = textOf file.bytes := by decide
  exact ⟨hnamed, hroot, hscan, hfile, rfl, rfl, htext,
    refresh_shows_records hnamed hroot hscan hfile (s := s) rfl rfl hname htext⟩

end RoutePaths.Project
