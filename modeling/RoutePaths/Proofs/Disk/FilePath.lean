import RoutePaths.Disk.FilePath
import RoutePaths.Proofs.Disk.Tree
import RoutePaths.Proofs.Text.Lines

/-!
# RoutePaths.Proofs.Disk.FilePath

Texts of files, told by their pieces and by the way from the root that they
spell:

* a text joined to a folder adds its pieces to those of the folder
  (`exists_pieces_join`), and its names to the way of the folder (`names_join`);
  joining twice is joining once (`join_join`);
* so a file below a folder is named, relative to the folder, by the names below
  it (`relative_eq_intercalate`);
* a file's folder is the way without the last name, however the file was
  spelled, and relative to the folder two steps up a file is named by its last
  two names (`relative_twoUp`).
-/

namespace RoutePaths.FilePath

open Disk (IsName)

variable {cwd xs way : List String} {path folder start rooted x y : String}

/-! ## pieces -/

/-- A slash parts the pieces. -/
theorem pieces_append_slash (a b : String) : pieces (a ++ "/" ++ b) = pieces a ++ pieces b := by
  have hslash : "/".toList = ['/'] := rfl
  rw [pieces, String.toList_append, String.toList_append, hslash, List.append_assoc,
    List.singleton_append, Text.splitOn_append_cons, List.map_append]
  rfl

/-- A path without a slash is one piece. -/
theorem pieces_eq_singleton (h : '/' ∉ path.toList) : pieces path = [path] := by
  rw [pieces, Text.splitOn_eq_singleton h, List.map_singleton, String.ofList_toList]

/-- A slash in front is an empty piece in front. -/
theorem pieces_slash_append (path : String) : pieces ("/" ++ path) = "" :: pieces path := by
  have hempty : pieces "" = [""] := rfl
  rw [← String.empty_append (s := "/"), pieces_append_slash, hempty, List.singleton_append]

/-- Names are the pieces of the text that they make up. -/
theorem pieces_intercalate (h : ∀ name ∈ xs, '/' ∉ name.toList) (hne : xs ≠ []) :
    pieces ("/".intercalate xs) = xs := by
  induction xs with
  | nil => contradiction
  | cons name rest ih =>
    have hname := pieces_eq_singleton (h name (List.mem_cons_self ..))
    cases rest with
    | nil => rw [String.intercalate_singleton, hname]
    | cons next rest =>
      have hrest := ih (fun n hn => h n (List.mem_cons_of_mem name hn)) (List.cons_ne_nil next rest)
      rw [String.intercalate_cons_cons, pieces_append_slash, hname, hrest, List.singleton_append]

/-! ## joined texts -/

/-- Whether a path is absolute is known from how it begins. -/
theorem isAbsolute_append (h : path ≠ "") (rest : String) :
    isAbsolute (path ++ rest) = isAbsolute path := by
  obtain ⟨c, cs, hcs⟩ := List.exists_cons_of_ne_nil (mt String.toList_eq_nil_iff.mp h)
  simp [isAbsolute, hcs]

/-- What is joined to a folder stands behind the text of the folder, which may be
given a slash. -/
theorem join_eq_append (h : isAbsolute path = false) :
    join folder path =
      (if folder = "" ∨ folder.toList.getLast? = some '/' then folder else folder ++ "/") ++
        path := by
  simp only [join, h, Bool.false_eq_true, if_false, Bool.or_eq_true, decide_eq_true_eq]
  split <;> rfl

/-- The pieces of a folder, but for an empty one at the end, and then those of
what is joined to it. -/
theorem exists_pieces_join (folder : String) (h : isAbsolute path = false) :
    ∃ front, pieces (join folder path) = front ++ pieces path ∧
      (pieces folder = front ∨ pieces folder = front ++ [""]) := by
  rw [join_eq_append h]
  by_cases hempty : folder = ""
  · subst hempty
    exact ⟨[], by simp, .inr rfl⟩
  by_cases hslash : folder.toList.getLast? = some '/'
  · obtain ⟨front, hfront⟩ := List.getLast?_eq_some_iff.mp hslash
    have hfolder : folder = String.ofList front ++ "/" ++ "" := by
      rw [← String.toList_inj, String.append_empty, String.toList_append, String.toList_ofList]
      exact hfront
    rw [if_pos (.inr hslash)]
    refine ⟨pieces (String.ofList front), ?_, .inr ?_⟩
    · rw [hfolder, String.append_empty, pieces_append_slash]
    · rw [hfolder, pieces_append_slash]
      rfl
  · rw [if_neg (by simp [hempty, hslash]), pieces_append_slash]
    exact ⟨_, rfl, .inl rfl⟩

/-- A relative path below a folder is absolute if the folder is. -/
theorem isAbsolute_join (h : isAbsolute path = false) :
    isAbsolute (join folder path) = isAbsolute folder := by
  rw [join_eq_append h]
  by_cases hempty : folder = ""
  · subst hempty
    simpa [isAbsolute] using h
  split
  · exact isAbsolute_append hempty path
  · rw [String.append_assoc]
    exact isAbsolute_append hempty _

/-- The text ends in a character of a name. -/
def EndsInName (path : String) : Prop := ∃ front c, path.toList = front ++ [c] ∧ c ≠ '/'

/-- What stands in front of a path leaves its last name. -/
theorem EndsInName.append (h : EndsInName path) (front : String) : EndsInName (front ++ path) := by
  obtain ⟨a, c, hpath, hc⟩ := h
  exact ⟨front.toList ++ a, c, by rw [String.toList_append, hpath, List.append_assoc], hc⟩

theorem EndsInName.ne_empty (h : EndsInName path) : path ≠ "" := by
  rintro rfl
  obtain ⟨a, c, hpath, -⟩ := h
  exact List.append_ne_nil_of_right_ne_nil a (List.cons_ne_nil c []) hpath.symm

/-- A path that ends in a name does not end in a slash. -/
theorem EndsInName.getLast?_ne (h : EndsInName path) : path.toList.getLast? ≠ some '/' := by
  obtain ⟨a, c, hpath, hc⟩ := h
  rw [hpath, List.getLast?_concat]
  exact fun heq => hc (Option.some.inj heq)

/-- Joining a text to a joined text is joining both at once. -/
theorem join_join (root : String) (hfolder : isAbsolute folder = false) (hends : EndsInName folder)
    (hpath : isAbsolute path = false) :
    join (join root folder) path = join root (folder ++ "/" ++ path) := by
  have hboth : isAbsolute (folder ++ "/" ++ path) = false := by
    rw [String.append_assoc, isAbsolute_append hends.ne_empty, hfolder]
  have hslash : ∀ front : String,
      ¬(front ++ folder = "" ∨ (front ++ folder).toList.getLast? = some '/') := fun front =>
    not_or.mpr ⟨(hends.append front).ne_empty, (hends.append front).getLast?_ne⟩
  rw [join_eq_append hpath, join_eq_append hfolder, join_eq_append hboth, if_neg (hslash _)]
  simp only [String.append_assoc]

/-! ## texts of names -/

theorem isAbsolute_of_isName (h : IsName x) : isAbsolute x = false := by
  rw [isAbsolute, decide_eq_false_iff_not]
  exact fun hhead => h.noSlash (List.mem_of_head? hhead)

/-- Names joined by slashes are a relative path. -/
theorem isAbsolute_intercalate (h : IsName x) (xs : List String) :
    isAbsolute ("/".intercalate (x :: xs)) = false := by
  cases xs with
  | nil => rw [String.intercalate_singleton, isAbsolute_of_isName h]
  | cons y xs =>
    rw [String.intercalate_cons_cons, String.append_assoc, isAbsolute_append h.ne_empty,
      isAbsolute_of_isName h]

/-- The text of names ends with the last of them. -/
theorem exists_intercalate_concat (xs : List String) (x : String) :
    ∃ front, "/".intercalate (xs ++ [x]) = front ++ x := by
  by_cases hxs : xs = []
  · subst hxs
    exact ⟨"", by simp⟩
  · exact ⟨_, by rw [String.intercalate_append_of_ne_nil hxs (List.cons_ne_nil x []),
      String.intercalate_singleton]⟩

theorem endsInName_of_isName (h : IsName x) : EndsInName x := by
  rcases List.eq_nil_or_concat x.toList with hnil | ⟨front, c, hc⟩
  · exact absurd (String.toList_eq_nil_iff.mp hnil) h.ne_empty
  · rw [List.concat_eq_append] at hc
    refine ⟨front, c, hc, ?_⟩
    rintro rfl
    exact h.noSlash (by simp [hc])

/-- Names joined by slashes end in the last of them. -/
theorem endsInName_intercalate (h : ∀ name ∈ xs, IsName name) (hne : xs ≠ []) :
    EndsInName ("/".intercalate xs) := by
  rcases List.eq_nil_or_concat xs with rfl | ⟨front, x, rfl⟩
  · contradiction
  · rw [List.concat_eq_append] at h ⊢
    obtain ⟨a, ha⟩ := exists_intercalate_concat front x
    rw [ha]
    exact (endsInName_of_isName (h x (by simp))).append a

theorem noNull_slash : ∀ c ∈ "/".toList, c.toNat ≠ 0 :=
  List.forall_mem_singleton.mpr (by decide)

/-- The text of names has no null character. -/
theorem noNull_intercalate (h : ∀ name ∈ xs, IsName name) :
    ∀ c ∈ ("/".intercalate xs).toList, c.toNat ≠ 0 := by
  induction xs with
  | nil => simp
  | cons x xs ih =>
    have hx := (h x (List.mem_cons_self ..)).noNull
    cases xs with
    | nil => rwa [String.intercalate_singleton]
    | cons y xs =>
      have hrest := ih fun n hn => h n (List.mem_cons_of_mem x hn)
      simp only [String.intercalate_cons_cons, String.toList_append, List.mem_append]
      rintro c ((hc | hc) | hc)
      · exact hx c hc
      · exact noNull_slash c hc
      · exact hrest c hc

/-! ## ways -/

/-- The names of a path are those of its pieces, behind the working folder if it is relative. -/
theorem names_eq_normal (cwd : List String) (path : String) :
    names cwd path = normal ((if isAbsolute path then [] else cwd) ++ pieces path) := by
  rw [names]
  split <;> rfl

/-- Each name makes a way longer. -/
theorem normal_append_names (h : ∀ name ∈ xs, IsName name) (ps : List String) :
    normal (ps ++ xs) = normal ps ++ xs := by
  induction xs generalizing ps with
  | nil => rw [List.append_nil, List.append_nil]
  | cons name rest ih =>
    have hname := h name (List.mem_cons_self ..)
    have hstep : normal (ps ++ [name]) = normal ps ++ [name] := by
      simp [normal, stepTo, hname.ne_empty, hname.ne_dot, hname.ne_dots]
    rw [List.append_cons, ih (fun n hn => h n (List.mem_cons_of_mem name hn)), hstep,
      List.append_assoc, List.singleton_append]

/-- An empty piece leads nowhere. -/
theorem normal_append_empty (ps : List String) : normal (ps ++ [""]) = normal ps := by
  simp [normal, stepTo]

/-- An empty piece in front does not count. -/
theorem normal_cons_empty (ps : List String) : normal ("" :: ps) = normal ps := by
  simp [normal, stepTo]

/-- **Names joined to a folder** go on from its way. -/
theorem names_join (habsolute : isAbsolute path = false)
    (hnames : ∀ name ∈ pieces path, IsName name) :
    names cwd (join folder path) = names cwd folder ++ pieces path := by
  obtain ⟨front, hjoin, hfolder⟩ := exists_pieces_join folder habsolute
  rw [names_eq_normal, names_eq_normal, isAbsolute_join habsolute, hjoin, ← List.append_assoc,
    normal_append_names hnames]
  rcases hfolder with hfolder | hfolder
  · rw [hfolder]
  · rw [hfolder, ← List.append_assoc, normal_append_empty]

/-- From a folder to what is below it no step goes up. -/
theorem apart_append (way rest : List String) : apart way (way ++ rest) = ([], rest) := by
  induction way with
  | nil => rw [List.nil_append, apart]; simp
  | cons name way ih => rw [List.cons_append, apart, if_pos rfl, ih]

/-- **A file below a folder** is named by the names below it. -/
theorem relative_eq_intercalate (h : names cwd path = names cwd start ++ xs) (hne : xs ≠ []) :
    relative cwd path start = "/".intercalate xs := by
  obtain ⟨x, rest, rfl⟩ := List.exists_cons_of_ne_nil hne
  rw [relative, h, apart_append]
  rfl

/-! ## texts from the root on -/

/-- The text that a way is written behind. -/
def IsRoot (rooted : String) : Prop := rooted = "/" ∨ rooted = "//"

/-- The root of a path is one slash or two. -/
theorem isRoot_rootOf (path : String) : IsRoot (rootOf path) := by
  rw [rootOf]
  split
  · exact .inr rfl
  · exact .inl rfl

/-- A root in front of a path adds blank pieces, which do not count. -/
theorem IsRoot.pieces (h : IsRoot rooted) (path : String) :
    ∃ blanks, FilePath.pieces (rooted ++ path) = blanks ++ FilePath.pieces path ∧
      ∀ ps, normal (blanks ++ ps) = normal ps := by
  rcases h with rfl | rfl
  · exact ⟨[""], pieces_slash_append path, normal_cons_empty⟩
  · refine ⟨["", ""], ?_, fun ps => ?_⟩
    · rw [show "//" = "/" ++ "/" from rfl, String.append_assoc, pieces_slash_append,
        pieces_slash_append]
      rfl
    · rw [List.cons_append, normal_cons_empty, List.singleton_append, normal_cons_empty]

/-- The way is read back from its text. -/
theorem names_rooted (hroot : IsRoot rooted) (hnames : ∀ name ∈ way, IsName name) :
    names cwd (rooted ++ "/".intercalate way) = way := by
  have habsolute : isAbsolute (rooted ++ "/".intercalate way) = true := by
    rcases hroot with rfl | rfl <;> rw [isAbsolute_append (by decide)] <;> rfl
  obtain ⟨blanks, hpieces, hblanks⟩ := hroot.pieces ("/".intercalate way)
  rw [names, if_pos habsolute, hpieces, hblanks]
  by_cases hway : way = []
  · subst hway
    rfl
  · rw [pieces_intercalate (fun n hn => (hnames n hn).noSlash) hway]
    exact normal_append_names hnames []

/-- The text of a way is absolute already. -/
theorem absolute_ofNames (hnames : ∀ name ∈ way, IsName name) (hne : way ≠ []) :
    absolute cwd (ofNames way) = ofNames way := by
  obtain ⟨x, rest, rfl⟩ := List.exists_cons_of_ne_nil hne
  have hroot : rootOf (ofNames (x :: rest)) = "/" := by
    have htext := isAbsolute_intercalate (hnames x (List.mem_cons_self ..)) rest
    have hslash : "/".toList = ['/'] := rfl
    rw [isAbsolute, decide_eq_false_iff_not] at htext
    rw [rootOf, ofNames, String.toList_append, hslash, List.singleton_append,
      List.takeWhile_cons_of_pos (by decide)]
    cases hchars : ("/".intercalate (x :: rest)).toList with
    | nil => rfl
    | cons c cs =>
      rw [hchars, List.head?_cons, Option.some.injEq] at htext
      rw [List.takeWhile_cons_of_neg (by simpa using htext)]
      rfl
  rw [absolute, hroot, ofNames, names_rooted (.inl rfl) hnames]

/-- What stands before the last slash, if there is one. -/
theorem folderName_append (hfolder : folder.toList.getLast? = some '/') (hx : '/' ∉ x.toList) :
    folderName (folder ++ x) =
      if folder.toList.all (· = '/') then folder
      else String.ofList (folder.toList.reverse.dropWhile (· = '/')).reverse := by
  obtain ⟨front, hfront⟩ := List.getLast?_eq_some_iff.mp hfolder
  have hbefore : ((folder ++ x).toList.reverse.dropWhile (· ≠ '/')).reverse = folder.toList := by
    rw [String.toList_append, List.reverse_append, List.dropWhile_append_of_pos, hfront]
    · simp
    · intro c hc
      simpa using fun h : c = '/' => hx (h ▸ List.mem_reverse.mp hc)
  simp only [folderName, hbefore, String.ofList_toList]

/-- **The folder of a file** is the way without the last name. -/
theorem folderName_rooted (hroot : IsRoot rooted) (hnames : ∀ name ∈ way ++ [x], IsName name) :
    folderName (rooted ++ "/".intercalate (way ++ [x])) = rooted ++ "/".intercalate way := by
  have hx : '/' ∉ x.toList := (hnames x (by simp)).noSlash
  by_cases hway : way = []
  · subst hway
    rw [List.nil_append, String.intercalate_singleton, String.intercalate_nil, String.append_empty]
    rcases hroot with rfl | rfl <;> rw [folderName_append (by decide) hx] <;> rfl
  · have hway' : ∀ name ∈ way, IsName name := fun n hn => hnames n (List.mem_append_left _ hn)
    obtain ⟨front, c, hends, hc⟩ := (endsInName_intercalate hway' hway).append rooted
    have hfolder : (rooted ++ "/".intercalate way ++ "/").toList = front ++ [c] ++ ['/'] := by
      rw [String.toList_append, hends]
      rfl
    rw [String.intercalate_append_of_ne_nil hway (List.cons_ne_nil x []),
      String.intercalate_singleton, ← String.append_assoc, ← String.append_assoc,
      folderName_append (by rw [hfolder, List.getLast?_concat]) hx, hfolder,
      if_neg (by simp [hc]), ← String.toList_inj, hends, String.toList_ofList]
    simp [hc]

/-- The folder two steps up, however the file was spelled. -/
theorem folderName_twoUp (hway : names cwd path = way ++ [x, y])
    (hnames : ∀ name ∈ names cwd path, IsName name) :
    folderName (folderName (absolute cwd path)) = rootOf path ++ "/".intercalate way := by
  have hroot := isRoot_rootOf path
  have hsplit : names cwd path = way ++ [x] ++ [y] := by
    rw [hway, List.append_assoc, List.singleton_append]
  rw [hsplit] at hnames
  rw [absolute, hsplit, folderName_rooted hroot hnames,
    folderName_rooted hroot fun n hn => hnames n (List.mem_append_left _ hn)]

/-- Two names up, the path of a folder is not empty. -/
theorem folderName_twoUp_ne_empty (hway : names cwd path = way ++ [x, y])
    (hnames : ∀ name ∈ names cwd path, IsName name) :
    folderName (folderName (absolute cwd path)) ≠ "" := by
  rw [folderName_twoUp hway hnames, Ne, String.append_eq_empty_iff, not_and_or]
  left
  rcases isRoot_rootOf path with hroot | hroot <;> rw [hroot] <;> decide

/-- **A file two steps down** is named by its last two names, relative to the
folder two steps up. -/
theorem relative_twoUp (hway : names cwd path = way ++ [x, y])
    (hnames : ∀ name ∈ names cwd path, IsName name) :
    relative cwd path (folderName (folderName (absolute cwd path))) = x ++ "/" ++ y := by
  have hup : names cwd (folderName (folderName (absolute cwd path))) = way := by
    rw [folderName_twoUp hway hnames]
    refine names_rooted (isRoot_rootOf path) fun n hn => hnames n ?_
    rw [hway]
    exact List.mem_append_left _ hn
  rw [relative_eq_intercalate (hway.trans (by rw [hup])) (List.cons_ne_nil x [y]),
    String.intercalate_cons_cons, String.intercalate_singleton]

end RoutePaths.FilePath
