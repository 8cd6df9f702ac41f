import RoutePaths.Disk.Basic
import RoutePaths.Proofs.Disk.FilePath

/-!
# RoutePaths.Proofs.Disk.Lookup

Looking texts up on a disk:

* a lookup goes on from where the lookup of its first pieces ended
  (`walk_append`), and along names it follows the tree (`walk_names`);
* so what is below a folder is found by joining its names to the text of the
  folder (`locate_join`);
* a text that can be looked up leads where its pieces alone say
  (`names_of_locate`);
* writing a file makes no folder (`hasFolder_of_write`); the file then holds what was
  written (`content?_of_write`), and writing behind another file leaves it as it is
  (`content?_of_append`).
-/

namespace RoutePaths.Disk

open FilePath (IsRoot)

variable {disk after : Disk} {root node : Node} {way place pieces : List String}
  {path folder name : String} {bytes : List UInt8}

/-- A disk as a program finds it: a tree of names that files can have, and a
working folder in it. -/
structure Sound (disk : Disk) : Prop where
  wellNamed : disk.root.WellNamed
  hasCwd : disk.root.HasFolder disk.cwd

/-! ## walking -/

theorem walk_nil (root : Node) (way : List String) : walk root way [] = .ok way := by rw [walk]

/-- From a folder a path goes on by its first piece: nowhere, up, or down. -/
theorem walk_cons_of_folder (hfolder : root.HasFolder way) (piece : String)
    (rest : List String) :
    walk root way (piece :: rest) =
      if piece = "" ∨ piece = "." then walk root way rest
      else if piece = ".." then walk root way.dropLast rest
      else walk root (way ++ [piece]) rest := by
  obtain ⟨es, hes⟩ := hfolder
  simp only [walk, hes, Bool.or_eq_true, decide_eq_true_eq]

/-- Only a folder has something to go on to. -/
theorem hasFolder_of_walk_cons {piece : String} (h : walk root way (piece :: pieces) = .ok place) :
    root.HasFolder way := by
  rw [walk] at h
  split at h
  · contradiction
  · contradiction
  · next es hes => exact ⟨es, hes⟩

/-- An empty piece before another one makes no difference. -/
theorem walk_empty (root : Node) (way : List String) (hne : pieces ≠ []) :
    walk root way ("" :: pieces) = walk root way pieces := by
  obtain ⟨piece, rest, rfl⟩ := List.exists_cons_of_ne_nil hne
  cases hway : root.get? way with
  | none => simp [walk, hway]
  | some node =>
    cases node with
    | file bytes => simp [walk, hway]
    | folder es => rw [walk_cons_of_folder ⟨es, hway⟩, if_pos (.inl rfl)]

/-- **A lookup goes on** from where its first pieces lead. -/
theorem walk_append (root : Node) (way xs ys : List String) :
    walk root way (xs ++ ys) = (walk root way xs).bind (walk root · ys) := by
  induction xs generalizing way with
  | nil => rfl
  | cons piece xs ih =>
    rw [List.cons_append, walk, walk]
    cases root.get? way with
    | none => rfl
    | some node =>
      cases node with
      | file bytes => rfl
      | folder es =>
        simp only [ih]
        split
        · rfl
        · split <;> rfl

/-- **Along names a lookup follows the tree.** -/
theorem walk_names (hget : root.get? (way ++ place) = some node)
    (hnames : ∀ name ∈ place, IsName name) : walk root way place = .ok (way ++ place) := by
  induction place generalizing way with
  | nil => rw [walk_nil, List.append_nil]
  | cons name rest ih =>
    have hname := hnames name (List.mem_cons_self ..)
    rw [walk_cons_of_folder (.of_get?_append_cons hget),
      if_neg (not_or.mpr ⟨hname.ne_empty, hname.ne_dot⟩), if_neg hname.ne_dots]
    rw [List.append_cons way name rest] at hget ⊢
    exact ih hget fun n hn => hnames n (List.mem_cons_of_mem name hn)

/-- A name in a folder need not be there yet. -/
theorem walk_name (hfolder : root.HasFolder way) (hname : IsName name) :
    walk root way [name] = .ok (way ++ [name]) := by
  rw [walk_cons_of_folder hfolder, if_neg (not_or.mpr ⟨hname.ne_empty, hname.ne_dot⟩),
    if_neg hname.ne_dots, walk_nil]

/-! ## locating -/

/-- A text that names something is not empty and has no null character. -/
theorem locate_eq_ok_iff :
    disk.locate path = .ok way ↔
      (∀ c ∈ path.toList, c.toNat ≠ 0) ∧ path ≠ "" ∧
        walk disk.root (disk.start path) (FilePath.pieces path) = .ok way := by
  rw [locate]
  split
  · next hnull =>
    obtain ⟨c, hc, hzero⟩ := List.any_eq_true.mp hnull
    refine iff_of_false nofun fun h => h.1 c hc (of_decide_eq_true hzero)
  · next hnull =>
    have hnull' : ∀ c ∈ path.toList, c.toNat ≠ 0 := fun c hc hzero =>
      hnull (List.any_eq_true.mpr ⟨c, hc, decide_eq_true hzero⟩)
    split
    · next hempty => exact iff_of_false nofun fun h => h.2.1 hempty
    · next hempty => exact ⟨fun h => ⟨hnull', hempty, h⟩, fun h => h.2.2⟩

/-- What is at a path is what is at the place it leads to. -/
theorem node?_eq_some_iff :
    disk.node? path = some node ↔
      ∃ way, disk.locate path = .ok way ∧ disk.root.get? way = some node := by
  rw [node?]
  cases disk.locate path with
  | error cause => simp
  | ok way => simp

/-- A file is read where its path leads. -/
theorem read_eq_ok (hlocate : disk.locate path = .ok way)
    (hget : disk.root.get? way = some (.file bytes)) : disk.read path = .ok bytes := by
  simp [read, hlocate, hget]

/-- What is found to be a file is one. -/
theorem isFile_of_node? (h : disk.node? path = some (.file bytes)) : disk.isFile path = true := by
  rw [isFile, h]
  rfl

/-- **What is below a folder** is found by joining its names to the folder's text. -/
theorem locate_join (hfolder : disk.locate folder = .ok way)
    (hwalk : walk disk.root way place = .ok (way ++ place)) (hnames : ∀ name ∈ place, IsName name)
    (hne : place ≠ []) :
    disk.locate (FilePath.join folder ("/".intercalate place)) = .ok (way ++ place) := by
  obtain ⟨hnull, hempty, hway⟩ := locate_eq_ok_iff.mp hfolder
  have habsolute : FilePath.isAbsolute ("/".intercalate place) = false := by
    obtain ⟨x, rest, rfl⟩ := List.exists_cons_of_ne_nil hne
    exact FilePath.isAbsolute_intercalate (hnames x (List.mem_cons_self ..)) rest
  have hpieces : FilePath.pieces ("/".intercalate place) = place :=
    FilePath.pieces_intercalate (fun n hn => (hnames n hn).noSlash) hne
  refine locate_eq_ok_iff.mpr ⟨?_, ?_, ?_⟩
  · have hplace := FilePath.noNull_intercalate hnames
    rw [FilePath.join_eq_append habsolute]
    intro c hc
    rcases List.mem_append.mp (String.toList_append ▸ hc) with hc | hc
    · split at hc
      · exact hnull c hc
      · rcases List.mem_append.mp (String.toList_append ▸ hc) with hc | hc
        · exact hnull c hc
        · exact FilePath.noNull_slash c hc
    · exact hplace c hc
  · rw [FilePath.join_eq_append habsolute]
    exact ((FilePath.endsInName_intercalate hnames hne).append _).ne_empty
  · obtain ⟨front, hjoin, hfront⟩ := FilePath.exists_pieces_join folder habsolute
    have hgoes : walk disk.root (disk.start folder) (FilePath.pieces folder ++ place) =
        .ok (way ++ place) := by
      rw [walk_append, hway]
      exact hwalk
    rw [start, FilePath.isAbsolute_join habsolute, ← start, hjoin, hpieces]
    rcases hfront with hfront | hfront
    · rwa [hfront] at hgoes
    · rw [hfront, List.append_assoc, List.singleton_append, walk_append] at hgoes
      rw [walk_append]
      simpa only [walk_empty _ _ hne] using hgoes

/-- The text of a way leads that way. -/
theorem locate_ofNames (hget : disk.root.get? way = some node)
    (hnames : ∀ name ∈ way, IsName name) (hne : way ≠ []) :
    disk.locate (FilePath.ofNames way) = .ok way := by
  have hpieces : FilePath.pieces (FilePath.ofNames way) = "" :: way := by
    rw [FilePath.ofNames, FilePath.pieces_slash_append,
      FilePath.pieces_intercalate (fun n hn => (hnames n hn).noSlash) hne]
  have hends := (FilePath.endsInName_intercalate hnames hne).append "/"
  have hstart : disk.start (FilePath.ofNames way) = [] := by
    rw [start, FilePath.ofNames, FilePath.isAbsolute_append (by decide)]
    rfl
  refine locate_eq_ok_iff.mpr ⟨?_, hends.ne_empty, ?_⟩
  · intro c hc
    rcases List.mem_append.mp (String.toList_append ▸ hc) with hc | hc
    · exact FilePath.noNull_slash c hc
    · exact FilePath.noNull_intercalate hnames c hc
  · rw [hstart, hpieces, walk_empty _ _ hne]
    rw [← List.nil_append way] at hget ⊢
    exact walk_names hget hnames

/-! ## texts and places -/

/-- Where a walk arrives, its pieces lead by name alone. -/
theorem foldl_stepTo_of_walk (h : walk root way pieces = .ok place) :
    (pieces.foldl FilePath.stepTo way.reverse).reverse = place := by
  induction pieces generalizing way with
  | nil =>
    rw [walk_nil] at h
    obtain rfl := Except.ok.inj h
    exact List.reverse_reverse way
  | cons piece rest ih =>
    rw [walk_cons_of_folder (hasFolder_of_walk_cons h)] at h
    rw [List.foldl_cons, FilePath.stepTo]
    simp only [Bool.or_eq_true, decide_eq_true_eq]
    split at h
    · next hblank => rw [if_pos hblank, ih h]
    · next hblank =>
      rw [if_neg hblank]
      split at h
      · next hdots => rw [if_pos hdots, List.tail_reverse, ih h]
      · next hdots =>
        have hway : piece :: way.reverse = (way ++ [piece]).reverse := by simp
        rw [if_neg hdots, hway, ih h]

/-- **A text leads where its pieces say**, if it leads anywhere. -/
theorem names_of_locate (hcwd : ∀ name ∈ disk.cwd, IsName name)
    (h : disk.locate path = .ok way) : FilePath.names disk.cwd path = way := by
  obtain ⟨-, -, hwalk⟩ := locate_eq_ok_iff.mp h
  have hgoes := foldl_stepTo_of_walk hwalk
  rw [start] at hgoes
  rw [FilePath.names_eq_normal, FilePath.normal, List.foldl_append]
  split at hgoes
  · next habsolute => rwa [if_pos habsolute]
  · next habsolute =>
    have hnormal : (disk.cwd.foldl FilePath.stepTo []).reverse = disk.cwd :=
      FilePath.normal_append_names hcwd []
    rwa [if_neg habsolute, List.reverse_eq_iff.mp hnormal]

/-! ## writing -/

/-- Where writing to a text goes: a place that the text leads to, in a folder that is
there, and not a folder itself. -/
structure IsTarget (disk : Disk) (path : String) (way : List String) : Prop where
  located : disk.locate path = .ok way
  inFolder : ∃ folder name, way = folder ++ [name] ∧ disk.root.HasFolder folder
  noFolder : ¬disk.root.HasFolder way

/-- Empty pieces at the end are left out; if none is, the last piece is not empty. -/
theorem ne_empty_of_last (hlast : (pieces.reverse.dropWhile (· = "")).reverse.getLast? = some name)
    (hlength : pieces.length ≤ (pieces.reverse.dropWhile (· = "")).reverse.length) :
    (pieces.reverse.dropWhile (· = "")).reverse = pieces ∧ name ≠ "" := by
  constructor
  · refine List.IsPrefix.eq_of_length_le ?_ hlength
    rw [← List.reverse_suffix, List.reverse_reverse]
    exact List.dropWhile_suffix _
  · rw [List.getLast?_reverse] at hlast
    simpa [hlast] using List.head?_dropWhile_not (· = "") pieces.reverse

/-- Writing goes to the target that it finds: it has walked to the folder, whose name is not
empty, and to the file one step more. -/
theorem isTarget_of_target (h : disk.target path = .ok way) : disk.IsTarget path way := by
  simp only [target] at h
  split at h
  · cases h
  next hnull =>
  split at h
  · cases h
  next hempty =>
  split at h
  · cases h
  · cases h
  next folder name hwalk hlast =>
  split at h
  · cases h
  · cases h
  next es hes =>
  split at h
  · cases h
  next hname =>
  split at h
  · cases h
  next hnofolder =>
  obtain rfl := Except.ok.inj h
  simp only [Bool.or_eq_true, decide_eq_true_eq, not_or, Nat.not_lt] at hname
  obtain ⟨⟨hdot, hdots⟩, hlength⟩ := hname
  obtain ⟨hkept, hblank⟩ := ne_empty_of_last hlast hlength
  rw [hkept] at hwalk hlast
  have hgoes : walk disk.root (disk.start path) (FilePath.pieces path) =
          .ok (folder ++ [name]) := by
    rw [← List.dropLast_append_getLast? name hlast, walk_append, hwalk]
    change walk disk.root folder [name] = _
    rw [walk_cons_of_folder ⟨es, hes⟩, if_neg (not_or.mpr ⟨hblank, hdot⟩), if_neg hdots, walk_nil]
  refine ⟨locate_eq_ok_iff.mpr ⟨?_, hempty, hgoes⟩, ⟨folder, name, rfl, es, hes⟩,
    mt Node.any_isFolder_iff.mpr hnofolder⟩
  simpa using hnull

/-- What writing a file does. -/
theorem exists_of_write (h : disk.write path bytes = .ok after) :
    ∃ way, disk.IsTarget path way ∧
      after = { disk with root := disk.root.put way (.file bytes) } := by
  rw [write] at h
  split at h
  · cases h
  · next way htarget => exact ⟨way, isTarget_of_target htarget, (Except.ok.inj h).symm⟩

/-- To write behind what a file holds is to write the file. -/
theorem exists_write_of_append (h : disk.append path bytes = .ok after) :
    ∃ all, disk.write path all = .ok after := by
  rw [append] at h
  split at h
  · cases h
  · next way htarget => exact ⟨_, by rw [write, htarget]; exact h⟩

/-- **Writing a file makes no folder.** -/
theorem hasFolder_of_write (h : disk.write path bytes = .ok after)
    (hfolder : after.root.HasFolder place) : disk.root.HasFolder place := by
  obtain ⟨way, ⟨-, ⟨folder, name, rfl, hparent⟩, -⟩, rfl⟩ := exists_of_write h
  exact Node.hasFolder_of_put hparent hfolder

/-! ## what a file holds -/

/-- The bytes of the file at the place that a text spells, if there is one. -/
def content? (disk : Disk) (path : String) : Option (List UInt8) :=
  match disk.root.get? (FilePath.names disk.cwd path) with
  | some (.file bytes) => some bytes
  | _ => none

/-- A file has the bytes at the names of its path. -/
theorem content?_eq_some_iff :
    disk.content? path = some bytes ↔
      disk.root.get? (FilePath.names disk.cwd path) = some (.file bytes) := by
  rw [content?]
  rcases disk.root.get? (FilePath.names disk.cwd path) with _ | (_ | _) <;> simp

/-- **A written file** holds what was written. -/
theorem content?_of_write (hcwd : ∀ name ∈ disk.cwd, IsName name)
    (h : disk.write path bytes = .ok after) :
    after.cwd = disk.cwd ∧ after.content? path = some bytes := by
  obtain ⟨way, htarget, rfl⟩ := exists_of_write h
  obtain rfl := names_of_locate hcwd htarget.located
  exact ⟨rfl, content?_eq_some_iff.mpr (Node.get?_put_self ..)⟩

/-- **A file stays as it is** when something is written behind another one. -/
theorem content?_of_append {other : String} {more : List UInt8}
    (hcwd : ∀ name ∈ disk.cwd, IsName name) (h : disk.append other more = .ok after)
    (hother : FilePath.names disk.cwd other ≠ FilePath.names disk.cwd path)
    (hcontent : disk.content? path = some bytes) :
    after.cwd = disk.cwd ∧ after.content? path = some bytes := by
  obtain ⟨all, hwrite⟩ := exists_write_of_append h
  obtain ⟨way, htarget, rfl⟩ := exists_of_write hwrite
  obtain rfl := names_of_locate hcwd htarget.located
  rw [content?_eq_some_iff] at hcontent
  refine ⟨rfl, content?_eq_some_iff.mpr ?_⟩
  refine (Node.get?_put_of_apart _ _ ?_ ?_).trans hcontent
  · intro hprefix
    exact htarget.noFolder (.of_isPrefix hcontent hprefix hother)
  · intro hprefix
    obtain ⟨folder, name, hway, es, hes⟩ := htarget.inFolder
    rw [hway] at hprefix hother
    have hbefore := (List.prefix_concat_iff.mp hprefix).resolve_left hother.symm
    refine Node.not_hasFolder_of_file hcontent ?_
    by_cases heq : FilePath.names disk.cwd path = folder
    · exact ⟨es, heq ▸ hes⟩
    · exact .of_isPrefix hes hbefore heq

end RoutePaths.Disk
