import RoutePaths.Proofs.Source.Clone

/-!
# RoutePaths.Proofs.Source.Resolve

Resolving a source and cleaning up behind it, with nothing done in between
(`resolves_cleanly`):

* a URL gives a project if git fetches one, and any other source if its absolute
  text names one (`NamesProject`);
* cleaning up takes back what a clone has put on the disk, however it ended, and
  nothing was put there for a source that is no URL; so the disk is as it was
  before.
-/

namespace RoutePaths.Source

open Disk (Node)

variable {m : Machine} {disk : Disk} {path source : String} {token : Option String}

/-! ## local projects -/

/-- A text names a route file, or a folder that holds a folder `routes`. -/
def NamesProject (disk : Disk) (path : String) : Prop :=
  disk.isFile path = true ∧ ".php".toList <:+ path.toList ∨
    disk.isFolder path = true ∧ disk.isFolder (FilePath.join path "routes") = true

/-- What is a file is no folder. -/
theorem isFolder_eq_false_of_isFile (h : disk.isFile path = true) : disk.isFolder path = false := by
  rw [Disk.isFile] at h
  rw [Disk.isFolder]
  cases hnode : disk.node? path with
  | none => rfl
  | some node => simpa [hnode] using h

/-- **A source that is no URL** gives the project that its absolute text names. -/
theorem validate_eq_ok_iff :
    validate disk source = .ok path ↔
      path = FilePath.absolute disk.cwd source ∧ NamesProject disk path := by
  rw [validate]
  generalize FilePath.absolute disk.cwd source = found
  split
  · next hfile =>
    have hfolder := isFolder_eq_false_of_isFile hfile
    split
    · next hphp =>
      rw [Except.ok.injEq, eq_comm]
      refine ⟨fun h => ⟨h, .inl ⟨h ▸ hfile, h ▸ List.isSuffixOf_iff_suffix.mp hphp⟩⟩, And.left⟩
    · next hphp =>
      refine iff_of_false (by simp) ?_
      rintro ⟨rfl, ⟨-, hsuffix⟩ | ⟨hfolder', -⟩⟩
      · exact hphp (List.isSuffixOf_iff_suffix.mpr hsuffix)
      · exact Bool.false_ne_true (hfolder.symm.trans hfolder')
  · next hfile =>
    split
    · next hfolder =>
      refine iff_of_false (by simp) ?_
      rintro ⟨rfl, ⟨hfile', -⟩ | ⟨hfolder', -⟩⟩
      · exact hfile hfile'
      · simp [hfolder'] at hfolder
    · next hfolder =>
      split
      · next hroutes =>
        refine iff_of_false (by simp) ?_
        rintro ⟨rfl, ⟨hfile', -⟩ | ⟨-, hroutes'⟩⟩
        · exact hfile hfile'
        · simp [hroutes'] at hroutes
      · next hroutes =>
        rw [Except.ok.injEq, eq_comm]
        refine ⟨fun h => ⟨h, .inr ?_⟩, And.left⟩
        simp only [Bool.not_eq_true', Bool.not_eq_false] at hfolder hroutes
        exact h ▸ ⟨hfolder, hroutes⟩

/-! ## clones -/

/-- The folder of a clone can be made in a folder that is there. -/
structure HasRoom (m : Machine) : Prop extends Fresh m where
  parent : m.disk.root.HasFolder m.scratch.dropLast

/-- A clone gives the folder that it goes to. -/
theorem eq_ofNames_of_clone (hfresh : Fresh m) (h : (clone source token m).1 = .ok path) :
    path = FilePath.ofNames m.scratch := by
  by_cases hclone : ∃ entries, m.clone = .fetched entries
  · obtain ⟨entries, hclone⟩ := hclone
    obtain ⟨after, hresult, -, hget⟩ := clone_of_fetched hclone source token
    rw [hresult, validate_ofNames hget hfresh.isName hfresh.ne_nil] at h
    split at h
    · exact (Except.ok.inj h).symm
    · contradiction
  · obtain ⟨e, after, hresult, -⟩ := clone_of_not_fetched (not_exists.mp hclone) source token
    rw [hresult] at h
    contradiction

/-- **All that a clone does to the disk** is to put a folder at the place of clones. -/
theorem exists_disk_clone (m : Machine) (source : String) (token : Option String) :
    ∃ entries, (clone source token m).2.scratch = m.scratch ∧
      (clone source token m).2.disk =
        { m.disk with root := m.disk.root.put m.scratch (.folder entries) } := by
  obtain ⟨disk, outcome, scratch, events⟩ := m
  cases outcome with
  | timedOut => exact ⟨[], rfl, rfl⟩
  | noGit => exact ⟨[], rfl, rfl⟩
  | failed report => exact ⟨[], rfl, rfl⟩
  | fetched entries =>
    refine ⟨entries, rfl, ?_⟩
    rw [← Node.put_put disk.root scratch (.folder []) (.folder entries)]
    rfl

/-- Cleaning up takes the folder of a clone away, whatever is in it. -/
theorem disk_cleanUp_of_put (h : HasRoom m) (hurl : isUrl source) {after : Machine}
    {entries : List (String × Node)} (hscratch : after.scratch = m.scratch)
    (hdisk : after.disk = { m.disk with root := m.disk.root.put m.scratch (.folder entries) }) :
    (cleanUp source after).2.disk = m.disk := by
  have hclean : (cleanUp source after).2.disk =
      { after.disk with root := after.disk.root.remove after.scratch } := by
    rw [cleanUp, if_pos hurl]
    rfl
  have hplace : m.scratch = m.scratch.dropLast ++ [m.scratch.getLast h.ne_nil] :=
    (List.dropLast_append_getLast h.ne_nil).symm
  have hback : (m.disk.root.put m.scratch (.folder entries)).remove m.scratch = m.disk.root := by
    have hmissing := h.missing
    rw [hplace] at hmissing ⊢
    exact Node.remove_put h.parent hmissing _
  rw [hclean, hscratch, hdisk, hback]

theorem resolve_of_isUrl (hurl : isUrl source) : resolve source token m = clone source token m := by
  rw [resolve, if_pos hurl]

theorem resolve_of_not_isUrl (hurl : ¬isUrl source) :
    resolve source token m = (validate m.disk source, m) := by
  rw [resolve, if_neg hurl]
  rfl

/-- **Cleaning up takes a clone back.** -/
theorem disk_cleanUp_resolve (h : HasRoom m) (source : String) (token : Option String) :
    (cleanUp source (resolve source token m).2).2.disk = m.disk := by
  by_cases hurl : isUrl source
  · obtain ⟨entries, hscratch, hdisk⟩ := exists_disk_clone m source token
    rw [resolve_of_isUrl hurl]
    exact disk_cleanUp_of_put h hurl hscratch hdisk
  · rw [resolve_of_not_isUrl hurl, cleanUp, if_neg hurl]
    rfl

/-- A clone is taken back with whatever git has left in its folder. -/
theorem disk_cleanUp_place (h : HasRoom m) (hurl : isUrl source) (token : Option String)
    (entries : List (String × Node)) :
    (cleanUp source (place (resolve source token m).2 entries)).2.disk = m.disk := by
  obtain ⟨first, hscratch, hdisk⟩ := exists_disk_clone m source token
  have hlast : (place (clone source token m).2 entries).disk =
      { m.disk with root := m.disk.root.put m.scratch (.folder entries) } := by
    rw [place, hscratch, hdisk, Node.put_put]
  rw [resolve_of_isUrl hurl]
  exact disk_cleanUp_of_put h hurl hscratch hlast

/-- **A source is resolved or refused, and leaves nothing behind.**  A URL gives
the folder of its clone, if git fetches a project; any other source gives its
absolute text, if that names one.  When the source is cleaned up the disk is what
it was before, whatever became of the source, and also if git, when it failed, had
written something into the folder of the clone; and a source that is no URL leaves
the disk alone even until then. -/
theorem resolves_cleanly (h : HasRoom m) (source : String) (token : Option String) :
    (∀ path, (resolve source token m).1 = .ok path ↔
        isUrl source ∧ FetchesProject m ∧ path = FilePath.ofNames m.scratch ∨
          ¬isUrl source ∧ path = FilePath.absolute m.disk.cwd source ∧
            NamesProject m.disk path) ∧
      (cleanUp source (resolve source token m).2).2.disk = m.disk ∧
      (isUrl source → ∀ entries,
        (cleanUp source (place (resolve source token m).2 entries)).2.disk = m.disk) ∧
      (¬isUrl source → (resolve source token m).2 = m) := by
  refine ⟨fun path => ?_, disk_cleanUp_resolve h source token,
    fun hurl => disk_cleanUp_place h hurl token, fun hurl => by rw [resolve_of_not_isUrl hurl]⟩
  by_cases hurl : isUrl source
  · obtain ⟨-, -, hproject⟩ := clone_leads h.toFresh source token
    rw [resolve_of_isUrl hurl, ← hproject]
    constructor
    · exact fun hok => .inl ⟨hurl, ⟨path, hok⟩, eq_ofNames_of_clone h.toFresh hok⟩
    · rintro (⟨-, ⟨root, hok⟩, rfl⟩ | ⟨hnot, -⟩)
      · rwa [← eq_ofNames_of_clone h.toFresh hok]
      · exact absurd hurl hnot
  · rw [resolve_of_not_isUrl hurl, validate_eq_ok_iff]
    simp [hurl]

/-- Git fetches a project into a folder next to a route file. -/
theorem resolves_cleanly_beside :
    let m : Machine := ⟨⟨.folder [("tmp", .folder [("web.php", .file [])])], ["tmp"]⟩,
      .fetched [("routes", .folder [])], ["tmp", "clone"], []⟩
    let source := "git@example.com:app.git"
    HasRoom m ∧
      (∀ path, (resolve source none m).1 = .ok path ↔
          isUrl source ∧ FetchesProject m ∧ path = FilePath.ofNames m.scratch ∨
            ¬isUrl source ∧ path = FilePath.absolute m.disk.cwd source ∧
              NamesProject m.disk path) ∧
        (cleanUp source (resolve source none m).2).2.disk = m.disk ∧
        (isUrl source → ∀ entries,
          (cleanUp source (place (resolve source none m).2 entries)).2.disk = m.disk) ∧
        (¬isUrl source → (resolve source none m).2 = m) := by
  intro m source
  have hroom : HasRoom m := ⟨⟨by decide, rfl⟩, ⟨_, rfl⟩⟩
  exact ⟨hroom, resolves_cleanly hroom source none⟩

end RoutePaths.Source
