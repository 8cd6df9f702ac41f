import Mathlib.Data.List.Basic
import RoutePaths.Project
import RoutePaths.Proofs.Disk.Lookup
import RoutePaths.Proofs.RouteFile

/-!
# RoutePaths.Proofs.Project.Listing

The files that a project keeps its routes in.  A file is told by its place below
the folder `routes` and by what it holds (`File`); it belongs to a project if it
is there and is called `….php` (`File.IsIn`).

* The name of a file, joined to the root of the project, leads to the file, and
  is its path relative to the root, however the root is spelled (`IsIn.read`,
  `IsIn.relative_eq`); no two files have one name (`IsIn.eq_of_name_eq`).
* A scan goes through all files of the project and through nothing else, in the
  order of the listing (`mem_filesIn_iff`, `pairwise_filesIn`, `routePaths_eq`).
-/

namespace RoutePaths.Project

open Disk (IsName Node)
open Disk.Node (ListedBefore)

/-! ## files -/

/-- A file: its place below the folder `routes`, and what it holds. -/
structure File where
  place : List String
  bytes : List UInt8
  deriving DecidableEq

namespace File

/-- The name of a file in its project. -/
def name (file : File) : String := "/".intercalate ("routes" :: file.place)

/-- The routes of a file in its project. -/
def routes (basePrefix : Option String) (file : File) : List Route :=
  Route.resolve (baseOf basePrefix file.name) file.name (textOf file.bytes)

/-- The file belongs to the project with the given root. -/
structure IsIn (file : File) (disk : Disk) (root : String) : Prop where
  there : ∃ folder, disk.node? (FilePath.join root "routes") = some folder ∧
    folder.get? file.place = some (.file file.bytes)
  isPhp : ".php".toList <:+ (file.place.getLastD "").toList

variable {file other : File} {disk : Disk} {root : String} {cwd : List String}

/-! ## names of files -/

theorem isName_routes : IsName "routes" := by decide

/-- A file below a folder has a name. -/
theorem IsIn.place_ne_nil (h : file.IsIn disk root) : file.place ≠ [] := by
  intro hnil
  have hphp := h.isPhp
  rw [hnil] at hphp
  exact absurd (List.suffix_nil.mp hphp) (by decide)

/-- A file of a project is found below the folder of its routes. -/
theorem IsIn.exists_way (h : file.IsIn disk root) :
    ∃ way, disk.locate (FilePath.join root "routes") = .ok way ∧
      disk.root.get? (way ++ file.place) = some (.file file.bytes) := by
  obtain ⟨folder, hfolder, hfile⟩ := h.there
  obtain ⟨way, hway, hget⟩ := Disk.node?_eq_some_iff.mp hfolder
  exact ⟨way, hway, by rw [Node.get?_append, hget, Option.bind_some, hfile]⟩

/-- The way to a file of a project is made of names. -/
theorem IsIn.isName (h : file.IsIn disk root) (hnamed : disk.root.WellNamed) :
    ∀ name ∈ file.place, IsName name := by
  obtain ⟨way, -, hget⟩ := h.exists_way
  exact fun name hname => hnamed.isName_of_mem hget (List.mem_append_right way hname)

/-- So is the way from the project on. -/
theorem IsIn.isName_cons (h : file.IsIn disk root) (hnamed : disk.root.WellNamed) :
    ∀ name ∈ "routes" :: file.place, IsName name := by
  rintro name (_ | ⟨_, hname⟩)
  · exact isName_routes
  · exact h.isName hnamed name hname

/-- The pieces of a file's name are the folder of the routes and the way below it. -/
theorem IsIn.pieces_name (h : file.IsIn disk root) (hnamed : disk.root.WellNamed) :
    FilePath.pieces file.name = "routes" :: file.place :=
  FilePath.pieces_intercalate (fun n hn => (h.isName_cons hnamed n hn).noSlash)
    (List.cons_ne_nil "routes" file.place)

/-- The name of a file is a relative path. -/
theorem isAbsolute_name (file : File) : FilePath.isAbsolute file.name = false :=
  FilePath.isAbsolute_intercalate isName_routes file.place

/-- A file of a project is a route file. -/
theorem IsIn.isRouteFile_name (h : file.IsIn disk root) :
    RouteFile.isRouteFile file.name = true := by
  rcases List.eq_nil_or_concat file.place with hnil | ⟨front, last, hplace⟩
  · exact absurd hnil h.place_ne_nil
  · have hphp := h.isPhp
    rw [hplace, List.concat_eq_append, List.getLastD_concat] at hphp
    obtain ⟨text, htext⟩ := FilePath.exists_intercalate_concat front last
    have hname : file.name = "routes/" ++ (text ++ last) := by
      rw [name, String.intercalate_cons_of_ne_nil h.place_ne_nil, hplace, List.concat_eq_append,
        htext]
      rfl
    rw [hname]
    refine RouteFile.isRouteFile_routes ?_
    rw [String.toList_append]
    exact hphp.trans (List.suffix_append ..)

/-- **No two files have one name.** -/
theorem IsIn.eq_of_name_eq (h : file.IsIn disk root) (hother : other.IsIn disk root)
    (hnamed : disk.root.WellNamed) (heq : file.name = other.name) : file = other := by
  have hplace : file.place = other.place := by
    have hpieces := h.pieces_name hnamed
    rw [heq, hother.pieces_name hnamed] at hpieces
    exact (List.cons.inj hpieces).2.symm
  obtain ⟨folder, hfolder, hfile⟩ := h.there
  obtain ⟨folder', hfolder', hfile'⟩ := hother.there
  obtain rfl := Option.some.inj (hfolder.symm.trans hfolder')
  rw [hplace, hfile'] at hfile
  have hbytes : other.bytes = file.bytes := Node.file.inj (Option.some.inj hfile)
  cases file
  cases other
  simp_all

/-! ## paths of files -/

/-- Going to a file from the project is going to it from the folder of the routes. -/
theorem join_name (root : String) (h : file.place ≠ [])
    (hnames : ∀ name ∈ file.place, IsName name) :
    FilePath.join root file.name =
      FilePath.join (FilePath.join root "routes") ("/".intercalate file.place) := by
  obtain ⟨first, rest, hplace⟩ := List.exists_cons_of_ne_nil h
  have hfirst := hnames first (by rw [hplace]; exact List.mem_cons_self ..)
  rw [FilePath.join_join root (FilePath.isAbsolute_of_isName isName_routes)
    (FilePath.endsInName_of_isName isName_routes)
    (hplace ▸ FilePath.isAbsolute_intercalate hfirst rest), name,
    String.intercalate_cons_of_ne_nil h]

/-- The name of a file leads from the root of the project to its place. -/
theorem IsIn.locate_join_name (h : file.IsIn disk root) (hnamed : disk.root.WellNamed)
    {way : List String} (hway : disk.locate (FilePath.join root "routes") = .ok way) :
    disk.locate (FilePath.join root file.name) = .ok (way ++ file.place) := by
  obtain ⟨way', hway', hget⟩ := h.exists_way
  obtain rfl := Except.ok.inj (hway.symm.trans hway')
  have hnames := h.isName hnamed
  rw [join_name root h.place_ne_nil hnames]
  exact Disk.locate_join hway (Disk.walk_names hget hnames) hnames h.place_ne_nil

/-- **The name of a file leads to the file.** -/
theorem IsIn.read (h : file.IsIn disk root) (hnamed : disk.root.WellNamed) :
    disk.read (FilePath.join root file.name) = .ok file.bytes := by
  obtain ⟨way, hway, hget⟩ := h.exists_way
  exact Disk.read_eq_ok (h.locate_join_name hnamed hway) hget

/-- The names on the way to a file: those of the project, `routes`, and the place below. -/
theorem IsIn.names_join_name (h : file.IsIn disk root) (hnamed : disk.root.WellNamed) :
    FilePath.names cwd (FilePath.join root file.name) =
      FilePath.names cwd root ++ "routes" :: file.place := by
  rw [FilePath.names_join file.isAbsolute_name (h.pieces_name hnamed ▸ h.isName_cons hnamed),
    h.pieces_name hnamed]

/-- **The name of a file is its path relative to the root.** -/
theorem IsIn.relative_eq (h : file.IsIn disk root) (hnamed : disk.root.WellNamed) :
    FilePath.relative cwd (FilePath.join root file.name) root = file.name :=
  FilePath.relative_eq_intercalate (h.names_join_name hnamed)
    (List.cons_ne_nil "routes" file.place)

/-- A file of a project is reported by its name. -/
theorem IsIn.reportedName_eq (h : file.IsIn disk root) (hnamed : disk.root.WellNamed)
    (cwd : List String) :
    reportedName cwd (FilePath.join root file.name) (some root) = .ok file.name := by
  have hne : FilePath.join root file.name ≠ "" := by
    rw [FilePath.join_eq_append file.isAbsolute_name]
    exact ((FilePath.endsInName_intercalate (h.isName_cons hnamed)
      (List.cons_ne_nil "routes" file.place)).append _).ne_empty
  by_cases hroot : root = ""
  · subst hroot
    rw [FilePath.join_eq_append file.isAbsolute_name]
    simp [reportedName, Option.filter]
  · simp [reportedName, Option.filter, hroot, hne, h.relative_eq hnamed]

end File

/-! ## the files of a project -/

/-- The file at a place below a folder. -/
def file? (folder : Node) (place : List String) : Option File :=
  match folder.get? place with
  | some (.file bytes) => some ⟨place, bytes⟩
  | _ => none

/-- The files that a scan goes through. -/
def filesIn (disk : Disk) (root : String) : List File :=
  match disk.node? (FilePath.join root "routes") with
  | none => []
  | some folder => (routeFiles folder).filterMap (file? folder)

variable {file : File} {disk : Disk} {root : String} {folder : Node} {place : List String}

/-- A file is taken from its place in the folder. -/
theorem file?_eq_some_iff :
    file? folder place = some file ↔
      file.place = place ∧ folder.get? place = some (.file file.bytes) := by
  rw [file?]
  constructor
  · intro h
    split at h
    · next bytes hget =>
      obtain rfl := Option.some.inj h
      exact ⟨rfl, hget⟩
    · contradiction
  · rintro ⟨rfl, hget⟩
    rw [hget]

/-- The route files of a folder are the files below it whose name ends in `.php`. -/
theorem mem_routeFiles_iff (h : folder.WellNamed) :
    place ∈ routeFiles folder ↔
      (∃ bytes, folder.get? place = some (.file bytes)) ∧
        ".php".toList <:+ (place.getLastD "").toList := by
  have hne : ".php".toList <:+ (place.getLastD "").toList → place ≠ [] := by
    rintro hphp rfl
    exact absurd (List.suffix_nil.mp hphp) (by decide)
  rw [routeFiles, List.mem_filter, List.isSuffixOf_iff_suffix, Node.mem_filesBelow_iff h]
  exact ⟨fun ⟨⟨_, hfile⟩, hphp⟩ => ⟨hfile, hphp⟩, fun ⟨hfile, hphp⟩ => ⟨⟨hne hphp, hfile⟩, hphp⟩⟩

/-- What is found on a well-named disk is well named. -/
theorem wellNamed_of_node? (hnamed : disk.root.WellNamed) {path : String}
    (h : disk.node? path = some folder) : folder.WellNamed := by
  obtain ⟨way, -, hget⟩ := Disk.node?_eq_some_iff.mp h
  exact hnamed.get? hget

/-- **All files of the project**, and nothing else. -/
theorem mem_filesIn_iff (hnamed : disk.root.WellNamed) :
    file ∈ filesIn disk root ↔ file.IsIn disk root := by
  rw [filesIn]
  cases hfolder : disk.node? (FilePath.join root "routes") with
  | none =>
    refine iff_of_false List.not_mem_nil fun h => ?_
    obtain ⟨folder, hsome, -⟩ := h.there
    rw [hfolder] at hsome
    contradiction
  | some folder =>
    simp only [List.mem_filterMap, mem_routeFiles_iff (wellNamed_of_node? hnamed hfolder),
      file?_eq_some_iff]
    constructor
    · rintro ⟨place, ⟨-, hphp⟩, rfl, hget⟩
      exact ⟨⟨folder, hfolder, hget⟩, hphp⟩
    · rintro ⟨⟨folder', hfolder', hget⟩, hphp⟩
      obtain rfl := Option.some.inj (hfolder.symm.trans hfolder')
      exact ⟨file.place, ⟨⟨file.bytes, hget⟩, hphp⟩, rfl, hget⟩

/-- **In the order of the listing**: files before folders, both by name. -/
theorem pairwise_filesIn (hnamed : disk.root.WellNamed) :
    (filesIn disk root).Pairwise (ListedBefore ·.place ·.place) := by
  rw [filesIn]
  split
  · exact List.Pairwise.nil
  · next folder hfolder =>
    have hlisted := Node.pairwise_filesBelow (wellNamed_of_node? hnamed hfolder)
    refine (hlisted.filter _).filterMap _ fun place place' hbefore file hfile file' hfile' => ?_
    obtain ⟨rfl, -⟩ := file?_eq_some_iff.mp hfile
    obtain ⟨rfl, -⟩ := file?_eq_some_iff.mp hfile'
    exact hbefore

/-- No file of a project is listed twice. -/
theorem nodup_names_filesIn (hnamed : disk.root.WellNamed) :
    ((filesIn disk root).map File.name).Nodup := by
  refine List.pairwise_map.mpr ((pairwise_filesIn hnamed).imp_of_mem ?_)
  intro file file' hfile hfile' hbefore heq
  have hsame := ((mem_filesIn_iff hnamed).mp hfile).eq_of_name_eq
    ((mem_filesIn_iff hnamed).mp hfile') hnamed heq
  exact hbefore.ne (congrArg File.place hsame)

/-- Joining names one by one is joining the text of all. -/
theorem foldl_join (root : String) {text : String} (habsolute : FilePath.isAbsolute text = false)
    (hends : FilePath.EndsInName text) (hnames : ∀ name ∈ place, IsName name) :
    place.foldl FilePath.join (FilePath.join root text) =
      FilePath.join root ("/".intercalate (text :: place)) := by
  induction place generalizing text with
  | nil => rw [List.foldl_nil, String.intercalate_singleton]
  | cons name rest ih =>
    have hname := hnames name (List.mem_cons_self ..)
    have hlonger : FilePath.isAbsolute (text ++ "/" ++ name) = false := by
      rw [String.append_assoc, FilePath.isAbsolute_append hends.ne_empty, habsolute]
    rw [List.foldl_cons,
      FilePath.join_join root habsolute hends (FilePath.isAbsolute_of_isName hname),
      ih hlonger ((FilePath.endsInName_of_isName hname).append _)
        fun n hn => hnames n (List.mem_cons_of_mem name hn),
      String.intercalate_cons_append, String.intercalate_cons_cons]

/-- **What a scan goes through** are the paths of the files of the project. -/
theorem routePaths_eq (hnamed : disk.root.WellNamed) (root : String) :
    routePaths disk root =
      (filesIn disk root).map fun file => FilePath.join root file.name := by
  rw [routePaths, filesIn]
  cases hfolder : disk.node? (FilePath.join root "routes") with
  | none => rfl
  | some folder =>
    have hwell := wellNamed_of_node? hnamed hfolder
    rw [List.map_filterMap, ← List.filterMap_eq_map]
    refine List.filterMap_congr fun place hplace => ?_
    obtain ⟨⟨bytes, hget⟩, -⟩ := (mem_routeFiles_iff hwell).mp hplace
    have hfile : file? folder place = some ⟨place, bytes⟩ := file?_eq_some_iff.mpr ⟨rfl, hget⟩
    rw [hfile, Option.map_some, Function.comp_apply,
      foldl_join root (FilePath.isAbsolute_of_isName File.isName_routes)
        (FilePath.endsInName_of_isName File.isName_routes) fun n hn => hwell.isName_of_mem hget hn]
    rfl

end RoutePaths.Project
