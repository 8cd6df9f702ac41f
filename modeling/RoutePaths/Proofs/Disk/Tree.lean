import RoutePaths.Disk.Tree
import RoutePaths.Proofs.Ledger

/-!
# RoutePaths.Proofs.Disk.Tree

Trees of files, told by what stands at their places:

* `get?_append` — a place is reached by way of every place on the way to it;
* what is put at a place stands there, and a file put into a folder makes no
  folder anywhere (`hasFolder_of_put`); what is taken away is gone
  (`get?_remove_self`), and then the tree is what it was before it was put there
  (`remove_put`);
* `WellNamed` — no folder has two entries of one name, and names are such as
  files can have.  Of such a tree the listing has the place of every file
  (`mem_filesBelow_iff`), in the order `ListedBefore`, so each of them once.
-/

namespace RoutePaths.Disk

/-! ## names -/

/-- A name that a file can have: it is not empty, it does not stand for another
folder, and it has no slash and no null character. -/
structure IsName (name : String) : Prop where
  ne_empty : name ≠ ""
  ne_dot : name ≠ "."
  ne_dots : name ≠ ".."
  noSlash : '/' ∉ name.toList
  noNull : ∀ c ∈ name.toList, c.toNat ≠ 0

instance (name : String) : Decidable (IsName name) :=
  decidable_of_iff (name ≠ "" ∧ name ≠ "." ∧ name ≠ ".." ∧ '/' ∉ name.toList ∧
      (name.toList.all fun c => decide (c.toNat ≠ 0)) = true) <| by
    simp only [List.all_eq_true, decide_eq_true_eq]
    exact ⟨fun ⟨h₁, h₂, h₃, h₄, h₅⟩ => ⟨h₁, h₂, h₃, h₄, h₅⟩,
      fun h => ⟨h.ne_empty, h.ne_dot, h.ne_dots, h.noSlash, h.noNull⟩⟩

namespace Node

/-- A tree whose folders have no two entries of one name, and whose names are
such as files can have. -/
inductive WellNamed : Node → Prop where
  | file (bytes : List UInt8) : WellNamed (.file bytes)
  | folder {es : List (String × Node)} (nodup : (Ledger.keys es).Nodup)
      (names : ∀ name ∈ Ledger.keys es, IsName name) (children : ∀ e ∈ es, WellNamed e.2) :
      WellNamed (.folder es)

/-- There is a folder at a place. -/
def HasFolder (node : Node) (place : List String) : Prop :=
  ∃ es, node.get? place = some (.folder es)

variable {node child : Node} {place way rest : List String} {name : String} {bytes : List UInt8}
  {es : List (String × Node)}

/-! ## looking up -/

@[simp] theorem get?_nil (node : Node) : node.get? [] = some node := by rw [get?]

@[simp] theorem get?_file_cons (bytes : List UInt8) (name : String) (rest : List String) :
    (file bytes).get? (name :: rest) = none := by rw [get?]

/-- A way into a folder goes by the entry of its first name. -/
theorem get?_folder_cons (es : List (String × Node)) (name : String) (rest : List String) :
    (folder es).get? (name :: rest) = (Ledger.get? es name).bind (·.get? rest) := by
  rw [get?]
  cases Ledger.get? es name <;> rfl

/-- The same for any node: a file has no entries. -/
theorem get?_cons (node : Node) (name : String) (rest : List String) :
    node.get? (name :: rest) = (Ledger.get? node.entries name).bind (·.get? rest) := by
  cases node with
  | file bytes => exact get?_file_cons ..
  | folder es => exact get?_folder_cons ..

/-- **A place is reached by way of every place before it.** -/
theorem get?_append (node : Node) (way rest : List String) :
    node.get? (way ++ rest) = (node.get? way).bind (·.get? rest) := by
  induction way generalizing node with
  | nil => rw [get?_nil, List.nil_append, Option.bind_some]
  | cons name way ih =>
    cases node with
    | file bytes => rw [List.cons_append, get?_file_cons, get?_file_cons, Option.bind_none]
    | folder es =>
      rw [List.cons_append, get?_folder_cons, get?_folder_cons, Option.bind_assoc]
      simp only [ih]

/-- Something further on can only be reached through a folder. -/
theorem eq_folder_of_get?_cons (h : node.get? (name :: rest) = some child) :
    ∃ es, node = folder es := by
  cases node with
  | file bytes => rw [get?_file_cons] at h; contradiction
  | folder es => exact ⟨es, rfl⟩

/-- What has something below it is a folder. -/
theorem HasFolder.of_get?_append_cons (h : node.get? (way ++ name :: rest) = some child) :
    node.HasFolder way := by
  rw [get?_append] at h
  obtain ⟨inner, hway, hrest⟩ := Option.bind_eq_some_iff.mp h
  obtain ⟨es, rfl⟩ := eq_folder_of_get?_cons hrest
  exact ⟨es, hway⟩

/-- On the way to anything there are folders. -/
theorem HasFolder.of_isPrefix (h : node.get? place = some child) (hon : way <+: place)
    (hne : way ≠ place) : node.HasFolder way := by
  obtain ⟨_ | ⟨name, rest⟩, rfl⟩ := hon
  · exact absurd (List.append_nil way).symm hne
  · exact .of_get?_append_cons h

/-- A file is no folder. -/
theorem not_hasFolder_of_file (h : node.get? place = some (file bytes)) :
    ¬node.HasFolder place := by
  rintro ⟨es, hes⟩
  exact nomatch h.symm.trans hes

/-- A folder has another at a place if the first name is an entry that has the rest. -/
theorem hasFolder_cons_iff :
    (folder es).HasFolder (name :: rest) ↔
      ∃ child, Ledger.get? es name = some child ∧ child.HasFolder rest := by
  simp only [HasFolder, get?_folder_cons, Option.bind_eq_some_iff]
  exact exists_comm.trans (exists_congr fun _ => exists_and_left)

/-- What is found is a folder exactly if it has entries. -/
theorem any_isFolder_iff {found : Option Node} :
    found.any (·.isFolder) = true ↔ ∃ es, found = some (folder es) := by
  rcases found with _ | (_ | es)
  · exact iff_of_false nofun nofun
  · exact iff_of_false nofun nofun
  · exact iff_of_true rfl ⟨es, rfl⟩

/-! ## putting and taking away -/

/-- Putting a node further down makes the folders that are missing. -/
theorem put_cons (node : Node) (name : String) (rest : List String) (new : Node) :
    node.put (name :: rest) new =
      folder (Ledger.put node.entries name
        (((Ledger.get? node.entries name).getD (folder [])).put rest new)) := by
  rw [put]

/-- What is put at a place stands there. -/
@[simp] theorem get?_put_self (node : Node) (place : List String) (new : Node) :
    (node.put place new).get? place = some new := by
  induction place generalizing node with
  | nil => rw [put, get?_nil]
  | cons name rest ih => rw [put_cons, get?_folder_cons, Ledger.get?_put_self, Option.bind_some, ih]

/-- What is put at a place changes nothing at places that are neither on the way to
it nor behind it. -/
theorem get?_put_of_apart (node new : Node) (hbehind : ¬way <+: place) (hon : ¬place <+: way) :
    (node.put way new).get? place = node.get? place := by
  induction way generalizing node place with
  | nil => exact absurd List.nil_prefix hbehind
  | cons name way ih =>
    obtain _ | ⟨other, rest⟩ := place
    · exact absurd List.nil_prefix hon
    · rw [put_cons, get?_folder_cons, get?_cons]
      by_cases hother : other = name
      · subst hother
        rw [List.prefix_cons_inj] at hbehind hon
        rw [Ledger.get?_put_self, Option.bind_some, ih _ hbehind hon]
        cases Ledger.get? node.entries other with
        | none =>
          obtain _ | ⟨next, rest⟩ := rest
          · exact absurd List.nil_prefix hon
          · exact get?_folder_cons ..
        | some child => rfl
      · rw [Ledger.get?_put_of_ne _ _ hother]

/-- A file that is put into a folder makes no folder, wherever one looks. -/
theorem hasFolder_of_put (hway : node.HasFolder way)
    (h : (node.put (way ++ [name]) (.file bytes)).HasFolder place) : node.HasFolder place := by
  induction way generalizing node place with
  | nil =>
    obtain ⟨es, hes⟩ := hway
    obtain rfl : node = folder es := by simpa using hes
    cases place with
    | nil => exact ⟨es, rfl⟩
    | cons other rest =>
      rw [List.nil_append, put_cons, hasFolder_cons_iff] at h
      obtain ⟨child, hchild, hfolder⟩ := h
      by_cases hother : other = name
      · -- A file stands here, and nothing is behind it.
        subst hother
        rw [Ledger.get?_put_self, put] at hchild
        obtain rfl := Option.some.inj hchild
        obtain ⟨es', hes'⟩ := hfolder
        cases rest <;> simp at hes'
      · rw [Ledger.get?_put_of_ne _ _ hother] at hchild
        exact hasFolder_cons_iff.mpr ⟨child, hchild, hfolder⟩
  | cons first way ih =>
    obtain ⟨es, rfl⟩ : ∃ es, node = folder es := by
      obtain ⟨es', hes'⟩ := hway
      exact eq_folder_of_get?_cons hes'
    obtain ⟨inner, hinner, hinside⟩ := hasFolder_cons_iff.mp hway
    cases place with
    | nil => exact ⟨es, rfl⟩
    | cons other rest =>
      rw [List.cons_append, put_cons, hasFolder_cons_iff, entries, hinner, Option.getD_some] at h
      obtain ⟨child, hchild, hfolder⟩ := h
      by_cases hother : other = first
      · subst hother
        rw [Ledger.get?_put_self] at hchild
        obtain rfl := Option.some.inj hchild
        exact hasFolder_cons_iff.mpr ⟨inner, hinner, ih hinside hfolder⟩
      · rw [Ledger.get?_put_of_ne _ _ hother] at hchild
        exact hasFolder_cons_iff.mpr ⟨child, hchild, hfolder⟩

/-- What is taken away is gone. -/
theorem get?_remove_self (node : Node) (h : place ≠ []) :
    (node.remove place).get? place = none := by
  fun_induction remove node place with
  | case1 => contradiction
  | case2 => exact get?_file_cons ..
  | case3 es name => rw [get?_folder_cons, Ledger.get?_erase_self, Option.bind_none]
  | case4 es name rest _ hnone => rw [get?_folder_cons, hnone, Option.bind_none]
  | case5 es name rest hrest child hchild ih =>
    rw [get?_folder_cons, Ledger.get?_put_self, Option.bind_some]
    exact ih fun hnil => hrest (by rw [hnil])

/-- A file stays if nothing on the way to it is taken away. -/
theorem get?_remove_of_file (hfile : node.get? way = some (file bytes)) (h : ¬place <+: way) :
    (node.remove place).get? way = some (file bytes) := by
  fun_induction remove node place generalizing way with
  | case1 => exact hfile
  | case2 => exact hfile
  | case3 es name =>
    obtain _ | ⟨other, rest⟩ := way
    · simp at hfile
    · have hother : other ≠ name := fun heq => h (by rw [heq]; exact List.prefix_append [name] rest)
      rwa [get?_folder_cons, Ledger.get?_erase_of_ne _ hother, ← get?_folder_cons]
  | case4 => exact hfile
  | case5 es name rest _ child hchild ih =>
    obtain _ | ⟨other, behind⟩ := way
    · simp at hfile
    · rw [get?_folder_cons] at hfile ⊢
      by_cases hother : other = name
      · subst hother
        rw [hchild, Option.bind_some] at hfile
        rw [Ledger.get?_put_self, Option.bind_some]
        exact ih hfile fun hprefix => h ((List.prefix_cons_inj _).mpr hprefix)
      · rwa [Ledger.get?_put_of_ne _ _ hother]

/-- The later of two nodes at a place stays. -/
theorem put_put (node : Node) (place : List String) (first second : Node) :
    (node.put place first).put place second = node.put place second := by
  induction place generalizing node with
  | nil => rw [put, put]
  | cons name rest ih =>
    rw [put_cons, put_cons, put_cons, entries, Ledger.get?_put_self, Option.getD_some, ih,
      Ledger.put_put]

/-- Removing a node further down changes the entry the way goes by. -/
theorem remove_cons (hrest : rest ≠ []) (hchild : Ledger.get? es name = some child) :
    (folder es).remove (name :: rest) = folder (Ledger.put es name (child.remove rest)) := by
  obtain ⟨next, rest, rfl⟩ := List.exists_cons_of_ne_nil hrest
  rw [remove, hchild]
  simp

/-- **What is put into a folder under a new name** leaves nothing behind when it is
taken away again. -/
theorem remove_put (hway : node.HasFolder way) (hfree : node.get? (way ++ [name]) = none)
    (new : Node) : (node.put (way ++ [name]) new).remove (way ++ [name]) = node := by
  induction way generalizing node with
  | nil =>
    obtain ⟨es, hes⟩ := hway
    obtain rfl : node = folder es := by simpa using hes
    have hnone : Ledger.get? es name = none := by simpa [get?_folder_cons] using hfree
    rw [List.nil_append, put_cons, remove, entries, Ledger.erase_put hnone]
  | cons first way ih =>
    obtain ⟨es, rfl⟩ : ∃ es, node = folder es := by
      obtain ⟨es', hes'⟩ := hway
      exact eq_folder_of_get?_cons hes'
    obtain ⟨inner, hinner, hinside⟩ := hasFolder_cons_iff.mp hway
    rw [List.cons_append, get?_folder_cons, hinner, Option.bind_some] at hfree
    rw [List.cons_append, put_cons, entries, hinner, Option.getD_some,
      remove_cons (List.concat_ne_nil _ _) (Ledger.get?_put_self ..), ih hinside hfree,
      Ledger.put_put, Ledger.put_eq_self hinner]

/-! ## well-named trees -/

mutual

/-- Whether a tree is well-named, entry by entry. -/
def isWellNamed : Node → Bool
  | file _ => true
  | folder es =>
    decide (Ledger.keys es).Nodup && (Ledger.keys es).all (decide <| IsName ·) && areWellNamed es

/-- Whether the trees of entries are well-named. -/
def areWellNamed : List (String × Node) → Bool
  | [] => true
  | (_, node) :: es => isWellNamed node && areWellNamed es

end

mutual

/-- The check of the names decides whether a node is well named. -/
theorem isWellNamed_iff : (node : Node) → (node.isWellNamed = true ↔ node.WellNamed)
  | file bytes => iff_of_true (by rw [isWellNamed]) (.file bytes)
  | folder es => by
    rw [isWellNamed, Bool.and_eq_true, Bool.and_eq_true, List.all_eq_true, areWellNamed_iff es]
    simp only [decide_eq_true_eq]
    exact ⟨fun ⟨⟨nodup, names⟩, children⟩ => .folder nodup names children,
      fun | .folder nodup names children => ⟨⟨nodup, names⟩, children⟩⟩

/-- The same for the entries of a folder. -/
theorem areWellNamed_iff :
    (es : List (String × Node)) → (areWellNamed es = true ↔ ∀ e ∈ es, e.2.WellNamed)
  | [] => iff_of_true (by rw [areWellNamed]) nofun
  | (_, node) :: es => by
    rw [areWellNamed, Bool.and_eq_true, isWellNamed_iff node, areWellNamed_iff es,
      List.forall_mem_cons]

end

instance (node : Node) : Decidable node.WellNamed := decidable_of_iff _ (isWellNamed_iff node)

/-- The entries of a well-named folder are well named. -/
theorem WellNamed.of_mem (h : WellNamed (.folder es)) {e : String × Node} (he : e ∈ es) :
    e.2.WellNamed := by
  cases h with
  | folder _ _ children => exact children e he

/-- Whatever is found in a well-named node is well named. -/
theorem WellNamed.get? (h : node.WellNamed) (hget : node.get? place = some child) :
    child.WellNamed := by
  induction place generalizing node with
  | nil =>
    rw [get?_nil] at hget
    exact Option.some.inj hget ▸ h
  | cons name rest ih =>
    obtain ⟨es, rfl⟩ := eq_folder_of_get?_cons hget
    rw [get?_folder_cons] at hget
    obtain ⟨inner, hinner, hrest⟩ := Option.bind_eq_some_iff.mp hget
    exact ih (h.of_mem (Ledger.mem_of_get?_eq_some hinner)) hrest

/-- Every place is spelled with names. -/
theorem WellNamed.isName_of_mem (h : node.WellNamed) (hget : node.get? place = some child)
    (hname : name ∈ place) : IsName name := by
  induction place generalizing node with
  | nil => contradiction
  | cons first rest ih =>
    obtain ⟨es, rfl⟩ := eq_folder_of_get?_cons hget
    rw [get?_folder_cons] at hget
    obtain ⟨inner, hinner, hrest⟩ := Option.bind_eq_some_iff.mp hget
    rcases List.mem_cons.mp hname with rfl | hname
    · cases h with
      | folder _ names => exact names name (Ledger.mem_keys_of_get?_eq_some hinner)
    · exact ih (h.of_mem (Ledger.mem_of_get?_eq_some hinner)) hrest hname

/-! ## the listing -/

/-- The order of the listing: in every folder the files come first, by name, and
then what is in its folders, by the names of these. -/
inductive ListedBefore : List String → List String → Prop where
  | files {a b : String} : a < b → ListedBefore [a] [b]
  | fileFirst {a b : String} {q : List String} : q ≠ [] → ListedBefore [a] (b :: q)
  | folders {a b : String} {p q : List String} : p ≠ [] → q ≠ [] → a < b →
      ListedBefore (a :: p) (b :: q)
  | inside {a : String} {p q : List String} : ListedBefore p q → ListedBefore (a :: p) (a :: q)

/-- No file is listed before itself. -/
theorem ListedBefore.ne {p q : List String} (h : ListedBefore p q) : p ≠ q := by
  induction h with
  | files hlt =>
    rintro heq
    exact String.lt_irrefl _ ((List.cons.inj heq).1 ▸ hlt)
  | fileFirst hq =>
    rintro heq
    exact hq (List.cons.inj heq).2.symm
  | folders _ _ hlt =>
    rintro heq
    exact String.lt_irrefl _ ((List.cons.inj heq).1 ▸ hlt)
  | inside _ ih =>
    rintro heq
    exact ih (List.cons.inj heq).2

/-- The files of a folder come first, by name, and then those of its folders, by name. -/
theorem filesBelow_folder (es : List (String × Node)) :
    (folder es).filesBelow =
      ((fileNames es).mergeSort fun a b => decide (a ≤ b)).map ([·]) ++
        (Ledger.sorted (foldersOf es)).flatMap fun (name, places) => places.map (name :: ·) := by
  rw [filesBelow]

/-- The folders among entries keep their order. -/
theorem foldersOf_eq_filterMap (es : List (String × Node)) :
    foldersOf es =
      es.filterMap fun e => if e.2.isFolder then some (e.1, e.2.filesBelow) else none := by
  induction es with
  | nil => rw [foldersOf, List.filterMap_nil]
  | cons e es ih =>
    obtain ⟨name, node⟩ := e
    rw [foldersOf, List.filterMap_cons, ← ih]
    cases node.isFolder <;> rfl

/-- A folder is listed with the files below it. -/
theorem mem_foldersOf_iff {places : List (List String)} :
    (name, places) ∈ foldersOf es ↔
      ∃ node, (name, node) ∈ es ∧ node.isFolder ∧ node.filesBelow = places := by
  rw [foldersOf_eq_filterMap, List.mem_filterMap]
  constructor
  · rintro ⟨⟨name', node⟩, hmem, h⟩
    split at h
    · next hfolder =>
      obtain ⟨rfl, rfl⟩ := Prod.mk.inj (Option.some.inj h)
      exact ⟨node, hmem, hfolder, rfl⟩
    · contradiction
  · rintro ⟨node, hmem, hfolder, rfl⟩
    exact ⟨(name, node), hmem, by rw [if_pos hfolder]⟩

/-- A file name is listed if an entry of the name is a file. -/
theorem mem_fileNames_iff : name ∈ fileNames es ↔ ∃ bytes, (name, file bytes) ∈ es := by
  rw [fileNames, List.mem_filterMap]
  constructor
  · rintro ⟨⟨name', node⟩, hmem, h⟩
    cases node with
    | file bytes =>
      obtain rfl := Option.some.inj h
      exact ⟨bytes, hmem⟩
    | folder es' => contradiction
  · rintro ⟨bytes, hmem⟩
    exact ⟨_, hmem, rfl⟩

/-- The names of the files are among those of the entries. -/
theorem fileNames_sublist_keys (es : List (String × Node)) :
    (fileNames es).Sublist (Ledger.keys es) := by
  induction es with
  | nil => exact List.Sublist.slnil
  | cons e es ih =>
    obtain ⟨name, node⟩ := e
    cases node with
    | file bytes => exact ih.cons_cons name
    | folder es' => exact ih.cons name

/-- The names of the folders are among those of the entries. -/
theorem keys_foldersOf_sublist (es : List (String × Node)) :
    (Ledger.keys (foldersOf es)).Sublist (Ledger.keys es) := by
  induction es with
  | nil =>
    rw [foldersOf]
    exact List.Sublist.slnil
  | cons e es ih =>
    obtain ⟨name, node⟩ := e
    rw [foldersOf]
    split
    · exact ih.cons_cons name
    · exact ih.cons name

/-- A listed place is that of a file in the folder itself, or leads through a
folder in it. -/
theorem mem_filesBelow_folder_iff :
    place ∈ (folder es).filesBelow ↔
      (∃ name bytes, place = [name] ∧ (name, file bytes) ∈ es) ∨
        ∃ name node rest, place = name :: rest ∧ (name, node) ∈ es ∧ node.isFolder ∧
          rest ∈ node.filesBelow := by
  rw [filesBelow_folder, List.mem_append]
  refine or_congr ?_ ?_
  · simp only [List.mem_map, List.mem_mergeSort, mem_fileNames_iff]
    constructor
    · rintro ⟨name, ⟨bytes, hmem⟩, rfl⟩
      exact ⟨name, bytes, rfl, hmem⟩
    · rintro ⟨name, bytes, rfl, hmem⟩
      exact ⟨name, ⟨bytes, hmem⟩, rfl⟩
  · simp only [List.mem_flatMap, Prod.exists, Ledger.mem_sorted, mem_foldersOf_iff, List.mem_map]
    constructor
    · rintro ⟨name, places, ⟨node, hmem, hfolder, rfl⟩, rest, hrest, rfl⟩
      exact ⟨name, node, rest, rfl, hmem, hfolder, hrest⟩
    · rintro ⟨name, node, rest, rfl, hmem, hfolder, hrest⟩
      exact ⟨name, _, ⟨node, hmem, hfolder, rfl⟩, rest, hrest, rfl⟩

/-- **The listing has the places of all files**, and nothing else. -/
theorem mem_filesBelow_iff (h : node.WellNamed) :
    place ∈ node.filesBelow ↔ place ≠ [] ∧ ∃ bytes, node.get? place = some (.file bytes) := by
  induction h generalizing place with
  | file bytes =>
    cases place with
    | nil => simp [filesBelow]
    | cons name rest => simp [filesBelow]
  | @folder es nodup _ _ ih =>
    rw [mem_filesBelow_folder_iff]
    constructor
    · rintro (⟨name, bytes, rfl, hmem⟩ | ⟨name, child, rest, rfl, hmem, -, hrest⟩)
      · have hget := (Ledger.get?_eq_some_iff_mem nodup).mpr hmem
        exact ⟨List.cons_ne_nil _ _, bytes, by simp [get?_folder_cons, hget]⟩
      · have hget := (Ledger.get?_eq_some_iff_mem nodup).mpr hmem
        obtain ⟨-, bytes, hbytes⟩ := (ih (name, child) hmem).mp hrest
        exact ⟨List.cons_ne_nil _ _, bytes, by simp [get?_folder_cons, hget, hbytes]⟩
    · rintro ⟨hne, bytes, hget⟩
      obtain ⟨name, rest, rfl⟩ := List.exists_cons_of_ne_nil hne
      rw [get?_folder_cons] at hget
      obtain ⟨child, hchild, hrest⟩ := Option.bind_eq_some_iff.mp hget
      have hmem := Ledger.mem_of_get?_eq_some hchild
      cases rest with
      | nil =>
        rw [get?_nil] at hrest
        exact .inl ⟨name, bytes, rfl, Option.some.inj hrest ▸ hmem⟩
      | cons next rest =>
        obtain ⟨es', rfl⟩ := eq_folder_of_get?_cons hrest
        exact .inr ⟨name, _, _, rfl, hmem, rfl,
          (ih _ hmem).mpr ⟨List.cons_ne_nil _ _, bytes, hrest⟩⟩

/-- A file below a node has a name. -/
theorem ne_nil_of_mem_filesBelow (h : place ∈ node.filesBelow) : place ≠ [] := by
  cases node with
  | file bytes =>
    rw [filesBelow] at h
    contradiction
  | folder es =>
    rcases mem_filesBelow_folder_iff.mp h with ⟨_, _, rfl, -⟩ | ⟨_, _, _, rfl, -⟩ <;>
      exact List.cons_ne_nil _ _

/-- **The order of the listing.** -/
theorem pairwise_filesBelow (h : node.WellNamed) : node.filesBelow.Pairwise ListedBefore := by
  induction h with
  | file bytes =>
    rw [filesBelow]
    exact List.Pairwise.nil
  | @folder es nodup _ _ ih =>
    have hfiles : ((fileNames es).mergeSort fun a b => decide (a ≤ b)).Pairwise (· < ·) :=
      Ledger.pairwise_lt_mergeSort (f := fun name => name)
        (by simpa using nodup.sublist (fileNames_sublist_keys es))
    have hfolders : (Ledger.sorted (foldersOf es)).Pairwise (·.1 < ·.1) :=
      List.pairwise_map.mp
        (Ledger.pairwise_keys_sorted (nodup.sublist (keys_foldersOf_sublist es)))
    have hbelow : ∀ {name places}, (name, places) ∈ Ledger.sorted (foldersOf es) →
        ∃ node, (name, node) ∈ es ∧ node.filesBelow = places := fun hmem =>
      let ⟨node, hes, _, hplaces⟩ := mem_foldersOf_iff.mp (Ledger.mem_sorted.mp hmem)
      ⟨node, hes, hplaces⟩
    rw [filesBelow_folder, List.pairwise_append]
    refine ⟨List.pairwise_map.mpr (hfiles.imp .files), ?_, ?_⟩
    · refine List.pairwise_flatMap.mpr ⟨?_, ?_⟩
      · rintro ⟨name, places⟩ hmem
        obtain ⟨node, hes, rfl⟩ := hbelow hmem
        exact List.pairwise_map.mpr ((ih _ hes).imp .inside)
      · refine hfolders.imp_of_mem ?_
        rintro ⟨a, as⟩ ⟨b, bs⟩ ha hb hlt p hp q hq
        obtain ⟨node, -, rfl⟩ := hbelow ha
        obtain ⟨node', -, rfl⟩ := hbelow hb
        obtain ⟨p', hp', rfl⟩ := List.mem_map.mp hp
        obtain ⟨q', hq', rfl⟩ := List.mem_map.mp hq
        exact .folders (ne_nil_of_mem_filesBelow hp') (ne_nil_of_mem_filesBelow hq') hlt
    · intro p hp q hq
      obtain ⟨a, -, rfl⟩ := List.mem_map.mp hp
      obtain ⟨⟨b, places⟩, hmem, hq⟩ := List.mem_flatMap.mp hq
      obtain ⟨node, -, rfl⟩ := hbelow hmem
      obtain ⟨q', hq', rfl⟩ := List.mem_map.mp hq
      exact .fileFirst (ne_nil_of_mem_filesBelow hq')

end Node

end RoutePaths.Disk
