import RoutePaths.Proofs.Project.Scan
import RoutePaths.Proofs.Text.Match

/-!
# RoutePaths.Proofs.Composer

Where composer files stop a detection.  A file that is missing, that is no UTF-8
text or that is no JSON text counts as no file (`content?`), and so do values that
are as good as none; but a value of the wrong shape is looked into all the same.
So a detection gives an answer exactly if the lock file can be looked into
(`LockFits`) and either gives a version or leaves the question to a manifest that
can be looked into (`ManifestFits`), as `detect_returns_iff` says.
-/

namespace RoutePaths.Composer

open Text (CodePoints)

variable {m : Machine} {path root : String} {data : Option RawJson} {value : RawJson}
  {xs : List RawJson}

/-! ## files -/

/-- The JSON value in the file of a text, if there is such a file and it has one. -/
def content? (disk : Disk) (path : String) : Option RawJson := do
  let bytes ← (disk.read path).toOption
  let s ← Text.decodeStrict bytes
  Json.readRaw? (Text.plainNewlines s)

/-- The value of bytes, whatever is wrong with bytes that have none. -/
theorem toOption_valueOf (bytes : List UInt8) :
    (valueOf bytes).toOption =
      (Text.decodeStrict bytes).bind fun s => Json.readRaw? (Text.plainNewlines s) := by
  rw [valueOf]
  cases Text.decodeStrict bytes with
  | none => rfl
  | some s =>
    dsimp only [Option.bind_some]
    rw [Json.readRaw?]
    cases Json.readRaw (Text.plainNewlines s) <;> rfl

/-- Only files can be read. -/
theorem isFile_of_read {disk : Disk} {bytes : List UInt8} (h : disk.read path = .ok bytes) :
    disk.isFile path = true := by
  rw [Disk.read] at h
  split at h
  · contradiction
  · next way hway =>
    split at h
    · contradiction
    · contradiction
    · next old hget => exact Disk.isFile_of_node? (Disk.node?_eq_some_iff.mpr ⟨way, hway, hget⟩)

/-- What is loaded is the value in the file. -/
theorem load_fst (path : String) (m : Machine) : (load path m).1 = content? m.disk path := by
  rw [load, content?]
  change ((ite (m.disk.isFile path = true) _ _ : Step (Option RawJson)) m).1 = _
  cases hread : m.disk.read path with
  | error e => split <;> rfl
  | ok bytes =>
    change _ = (Text.decodeStrict bytes).bind fun s => Json.readRaw? (Text.plainNewlines s)
    rw [if_pos (isFile_of_read hread), ← toOption_valueOf]
    dsimp only
    cases valueOf bytes <;> rfl

/-- **A detection goes by the values in the two files** and by nothing else. -/
theorem detect_fst (root : String) (m : Machine) :
    ((detect root).run m).1 =
      (lockedVersion (content? m.disk (FilePath.join root "composer.lock"))).bind fun
        | some version => .ok ⟨true, some (.string version)⟩
        | none => required (content? m.disk (FilePath.join root "composer.json")) := by
  have hlock := load_fst (FilePath.join root "composer.lock") m
  have hafter := ((plain_load (FilePath.join root "composer.lock")).reported m).disk_eq
  have hmanifest := load_fst (FilePath.join root "composer.json")
    (load (FilePath.join root "composer.lock") m).2
  rw [hafter] at hmanifest
  rw [← hlock, ← hmanifest, detect]
  change ((ExceptT.lift (load (FilePath.join root "composer.lock")) >>= _ :
    Run ShapeError Detection).run m).1 = _
  rw [Run.run_lift_bind]
  rcases lockedVersion (load (FilePath.join root "composer.lock") m).1 with e | _ | version <;> rfl

/-! ## shapes -/

/-- A value with fields. -/
def IsObject (value : RawJson) : Prop := ∃ fs, value = .object fs

/-- Every item that is no object stands behind the framework. -/
def FrameworkFirst (xs : List RawJson) : Prop :=
  ∀ front x back, xs = front ++ x :: back → ¬IsObject x →
    ∃ fs, .object fs ∈ front ∧ isFramework fs = true

/-- Packages that can be gone through up to the framework. -/
def PackagesFit (packages : RawJson) : Prop :=
  packages = .object [] ∨ packages = .string [] ∨ ∃ xs, packages = .array xs ∧ FrameworkFirst xs

/-- A lock file that can be looked into. -/
def LockFits (value : RawJson) : Prop :=
  value.isBlank = true ∨ ∃ fs, value = .object fs ∧
    ∀ packages, field? fs "packages" = some packages → PackagesFit packages

/-- Requirements that can be looked into: in a list or a text the framework may not
be found, for it has no value there. -/
def RequireFits (require : RawJson) : Prop :=
  IsObject require ∨ (∃ xs, require = .array xs ∧ .string framework ∉ xs) ∨
    ∃ s, require = .string s ∧ ¬framework.chars <:+: s.chars

/-- A manifest that can be looked into. -/
def ManifestFits (value : RawJson) : Prop :=
  value.isBlank = true ∨ ∃ fs, value = .object fs ∧
    ∀ require, field? fs "require" = some require →
      require.isBlank = true ∨ RequireFits require

/-! ## lock files -/

/-- What is no object raises an error with the kind it is of. -/
theorem not_isObject_iff : ¬IsObject value ↔ fields value = .error (.noFields (kind value)) := by
  cases value with
  | object fs => exact iff_of_false (fun h => h ⟨fs, rfl⟩) (by simp [fields])
  | _ => exact iff_of_true (by simp [IsObject]) rfl

theorem not_isObject_string (s : CodePoints) : ¬IsObject (.string s) := by simp [IsObject]

/-- A failure gives no answer. -/
theorem not_exists_error_eq_ok {ε α : Type} (e : ε) : ¬∃ a, (.error e : Except ε α) = .ok a := by
  simp

/-- Without packages there is none of the wrong shape. -/
theorem frameworkFirst_nil : FrameworkFirst [] := by
  intro front x back h
  simp at h

/-- Behind the framework there may be anything. -/
theorem frameworkFirst_cons_framework {fs : Ledger CodePoints RawJson} (h : isFramework fs = true)
    (xs : List RawJson) : FrameworkFirst (.object fs :: xs) := by
  intro front x back hsplit hx
  obtain _ | ⟨first, front⟩ := front
  · exact absurd ⟨fs, (List.cons.inj hsplit).1.symm⟩ hx
  · obtain ⟨rfl, -⟩ := List.cons.inj hsplit
    exact ⟨fs, List.mem_cons_self .., h⟩

/-- Another package is passed by. -/
theorem frameworkFirst_cons_other {fs : Ledger CodePoints RawJson} (h : ¬isFramework fs = true) :
    FrameworkFirst (.object fs :: xs) ↔ FrameworkFirst xs := by
  constructor
  · intro hfirst front x back hsplit hx
    obtain ⟨fs', hmem, hframework⟩ :=
      hfirst (.object fs :: front) x back (congrArg (.object fs :: ·) hsplit) hx
    rcases List.mem_cons.mp hmem with heq | hmem
    · obtain rfl := JsonOf.object.inj heq
      exact absurd hframework h
    · exact ⟨fs', hmem, hframework⟩
  · intro hfirst front x back hsplit hx
    obtain _ | ⟨first, front⟩ := front
    · exact absurd ⟨fs, (List.cons.inj hsplit).1.symm⟩ hx
    · obtain ⟨fs', hmem, hframework⟩ := hfirst front x back (List.cons.inj hsplit).2 hx
      exact ⟨fs', List.mem_cons_of_mem first hmem, hframework⟩

/-- A package that is no object stops the search. -/
theorem not_frameworkFirst_cons (h : ¬IsObject value) (xs : List RawJson) :
    ¬FrameworkFirst (value :: xs) := by
  intro hfirst
  obtain ⟨fs, hmem, -⟩ := hfirst [] value xs rfl h
  contradiction

/-- Items that are no objects are in the way, unless there are none. -/
theorem frameworkFirst_iff_eq_nil (h : ∀ x ∈ xs, ¬IsObject x) : FrameworkFirst xs ↔ xs = [] := by
  cases xs with
  | nil => exact iff_of_true frameworkFirst_nil rfl
  | cons x xs =>
    exact iff_of_false (not_frameworkFirst_cons (h x (List.mem_cons_self ..)) xs)
      (List.cons_ne_nil x xs)

/-- **The items are gone through** until the framework is found. -/
theorem exists_firstVersion_iff :
    (∃ version, firstVersion xs = .ok version) ↔ FrameworkFirst xs := by
  induction xs with
  | nil => exact iff_of_true ⟨none, rfl⟩ frameworkFirst_nil
  | cons value xs ih =>
    rw [firstVersion]
    by_cases hobject : IsObject value
    · obtain ⟨fs, rfl⟩ := hobject
      change (∃ version, (if isFramework fs = true then _ else _ : Except _ _) = .ok version) ↔ _
      split
      · next hframework =>
        exact iff_of_true ⟨_, rfl⟩ (frameworkFirst_cons_framework hframework xs)
      · next hframework => rw [ih, frameworkFirst_cons_other hframework]
    · rw [not_isObject_iff.mp hobject]
      exact iff_of_false (not_exists_error_eq_ok _) (not_frameworkFirst_cons hobject xs)

/-- Packages can be gone through exactly if they have the shape for it. -/
theorem exists_items_iff (packages : RawJson) :
    (∃ version, (items packages).bind firstVersion = .ok version) ↔ PackagesFit packages := by
  cases packages with
  | array xs =>
    change (∃ version, firstVersion xs = .ok version) ↔ _
    rw [exists_firstVersion_iff]
    simp [PackagesFit]
  | object fs =>
    change (∃ version, firstVersion (fs.map fun pair => .string pair.1) = .ok version) ↔ _
    rw [exists_firstVersion_iff,
      frameworkFirst_iff_eq_nil (List.forall_mem_map.mpr fun _ _ => not_isObject_string _)]
    simp [PackagesFit]
  | string s =>
    change (∃ version, firstVersion (s.map fun c => .string [c]) = .ok version) ↔ _
    rw [exists_firstVersion_iff,
      frameworkFirst_iff_eq_nil (List.forall_mem_map.mpr fun _ _ => not_isObject_string _)]
    simp [PackagesFit]
  | _ => exact iff_of_false (not_exists_error_eq_ok _) (by simp [PackagesFit])

/-- A lock file can be looked into exactly if it is missing or has the shape for it. -/
theorem exists_lockedVersion_iff :
    (∃ version, lockedVersion data = .ok version) ↔
      ∀ value, data = some value → LockFits value := by
  cases data with
  | none => exact iff_of_true ⟨none, rfl⟩ (by simp)
  | some value =>
    simp only [Option.some.injEq, forall_eq']
    rw [lockedVersion]
    split
    · next hblank => exact iff_of_true ⟨none, rfl⟩ (.inl hblank)
    · next hblank =>
      by_cases hobject : IsObject value
      · obtain ⟨fs, rfl⟩ := hobject
        change (∃ version, (items ((field? fs "packages").getD (.array []))).bind firstVersion =
          .ok version) ↔ _
        rw [exists_items_iff]
        cases hpackages : field? fs "packages" with
        | none => simp [LockFits, hblank, hpackages, PackagesFit, frameworkFirst_nil]
        | some packages => simp [LockFits, hblank, hpackages]
      · rw [not_isObject_iff.mp hobject]
        refine iff_of_false (not_exists_error_eq_ok _) ?_
        rintro (hblank' | ⟨fs, rfl, -⟩)
        · exact hblank hblank'
        · exact hobject ⟨fs, rfl⟩

/-! ## manifests -/

theorem unlessBlank_of_isBlank (h : value.isBlank = true) : unlessBlank (some value) = none := by
  simp [unlessBlank, Option.filter, h]

theorem unlessBlank_of_not_isBlank (h : ¬value.isBlank = true) :
    unlessBlank (some value) = some value := by
  simp [unlessBlank, Option.filter, h]

/-- What requirements tell of the framework. -/
def lookUp (require : RawJson) : Except ShapeError Detection := do
  if ← holds framework require then return ⟨true, unlessBlank (← named framework require)⟩
  else return ⟨false, none⟩

/-- Once it is known whether the requirements hold the framework, its version is that
under its name. -/
theorem lookUp_of_holds {require : RawJson} {found : Bool}
    (h : holds framework require = .ok found) :
    lookUp require =
      if found then (named framework require).map fun value => ⟨true, unlessBlank value⟩
      else .ok ⟨false, none⟩ := by
  rw [lookUp, h]
  cases found with
  | false => rfl
  | true => cases hnamed : named framework require <;> simp <;> rfl

/-- A list holds a name that is one of its items. -/
theorem exists_holds_array (name : CodePoints) (xs : List RawJson) :
    ∃ found, holds name (.array xs) = .ok found ∧ (found = true ↔ .string name ∈ xs) := by
  refine ⟨_, rfl, ?_⟩
  rw [List.any_eq_true]
  constructor
  · rintro ⟨x, hx, hsame⟩
    cases x with
    | string s => exact of_decide_eq_true hsame ▸ hx
    | _ => contradiction
  · exact fun h => ⟨_, h, decide_eq_true rfl⟩

/-- **What is found is looked up**, so it has to have a value there. -/
theorem exists_lookUp_iff (require : RawJson) :
    (∃ found, lookUp require = .ok found) ↔ RequireFits require := by
  cases require with
  | object fs =>
    refine iff_of_true ?_ (.inl ⟨fs, rfl⟩)
    rw [lookUp_of_holds rfl]
    split <;> exact ⟨_, rfl⟩
  | array xs =>
    obtain ⟨found, hholds, hmem⟩ := exists_holds_array framework xs
    rw [lookUp_of_holds hholds]
    split
    · next hfound =>
      exact iff_of_false (not_exists_error_eq_ok _)
        (by simp [RequireFits, IsObject, hmem.mp hfound])
    · next hfound => exact iff_of_true ⟨_, rfl⟩ (.inr (.inl ⟨xs, rfl, mt hmem.mpr hfound⟩))
  | string s =>
    rw [lookUp_of_holds rfl]
    split
    · next hfound =>
      refine iff_of_false (not_exists_error_eq_ok _) ?_
      simp [RequireFits, IsObject, Text.contains_iff.mp hfound]
    · next hfound =>
      exact iff_of_true ⟨_, rfl⟩ (.inr (.inr ⟨s, rfl, mt Text.contains_iff.mpr hfound⟩))
  | _ => exact iff_of_false (not_exists_error_eq_ok _) (by simp [RequireFits, IsObject])

/-- A manifest can be looked into exactly if it is missing or blank, or an object whose
requirements are blank or can be asked for the framework. -/
theorem exists_required_iff :
    (∃ found, required data = .ok found) ↔ ∀ value, data = some value → ManifestFits value := by
  cases data with
  | none => exact iff_of_true ⟨⟨false, none⟩, rfl⟩ (by simp)
  | some value =>
    simp only [Option.some.injEq, forall_eq']
    by_cases hblank : value.isBlank = true
    · rw [required, unlessBlank_of_isBlank hblank]
      exact iff_of_true ⟨_, rfl⟩ (.inl hblank)
    · rw [required, unlessBlank_of_not_isBlank hblank]
      by_cases hobject : IsObject value
      · obtain ⟨fs, rfl⟩ := hobject
        change (∃ found, lookUp ((unlessBlank (field? fs "require")).getD (.object [])) =
          .ok found) ↔ _
        rw [exists_lookUp_iff]
        cases hrequire : field? fs "require" with
        | none => simp [ManifestFits, hrequire, unlessBlank, RequireFits, IsObject]
        | some require =>
          by_cases hnone : require.isBlank = true
          · rw [unlessBlank_of_isBlank hnone]
            simp [ManifestFits, hrequire, hnone, RequireFits, IsObject]
          · rw [unlessBlank_of_not_isBlank hnone]
            simp [ManifestFits, hrequire, hblank, hnone]
      · dsimp only
        rw [not_isObject_iff.mp hobject]
        refine iff_of_false (not_exists_error_eq_ok _) ?_
        rintro (hblank' | ⟨fs, rfl, -⟩)
        · exact hblank hblank'
        · exact hobject ⟨fs, rfl⟩

/-! ## detections -/

/-- **A detection gives an answer** exactly if the lock file can be looked into and
either gives a version or leaves the question to a manifest that can be looked into.
Files that are not there, that cannot be read or that hold no JSON text are in
nobody's way: without a value in either file there is no framework. -/
theorem detect_returns_iff (m : Machine) (root : String) :
    let lock := content? m.disk (FilePath.join root "composer.lock")
    let manifest := content? m.disk (FilePath.join root "composer.json")
    ((∃ found, ((detect root).run m).1 = .ok found) ↔
        (∀ value, lock = some value → LockFits value) ∧
          ((∃ version, lockedVersion lock = .ok (some version)) ∨
            ∀ value, manifest = some value → ManifestFits value)) ∧
      (lock = none → manifest = none → ((detect root).run m).1 = .ok ⟨false, none⟩) := by
  intro lock manifest
  rw [detect_fst, ← exists_lockedVersion_iff, ← exists_required_iff]
  refine ⟨?_, fun hlock hmanifest => ?_⟩
  · cases hversion : lockedVersion lock with
    | error e => exact iff_of_false (not_exists_error_eq_ok e) fun h => not_exists_error_eq_ok e h.1
    | ok version =>
      cases version with
      | some version => exact iff_of_true ⟨_, rfl⟩ ⟨⟨_, rfl⟩, .inl ⟨_, rfl⟩⟩
      | none =>
        change (∃ found, required manifest = .ok found) ↔ _
        simp
  · change (lockedVersion lock).bind _ = _
    rw [hlock]
    change required manifest = _
    rw [hmanifest]
    rfl

/-- A manifest that is no JSON text, and no lock file. -/
theorem detect_returns_iff_unparsed :
    let m : Machine := ⟨⟨.folder [("app", .folder [("composer.json", .file [0x7B])])], []⟩,
      .noGit, ["tmp"], []⟩
    content? m.disk (FilePath.join "app" "composer.lock") = none ∧
      content? m.disk (FilePath.join "app" "composer.json") = none ∧
      ((∃ found, ((detect "app").run m).1 = .ok found) ∧
        ((detect "app").run m).1 = .ok ⟨false, none⟩) := by
  intro m
  have hlock : content? m.disk (FilePath.join "app" "composer.lock") = none := rfl
  have hmanifest : content? m.disk (FilePath.join "app" "composer.json") = none := rfl
  obtain ⟨hiff, hmissing⟩ := detect_returns_iff m "app"
  refine ⟨hlock, hmanifest, hiff.mpr ⟨?_, .inr ?_⟩, hmissing hlock hmanifest⟩
  · simp [hlock]
  · simp [hmanifest]

/-- **A list in the manifest**, here of the text `[1]`, stops a detection. -/
theorem detect_fails_on_list :
    let m : Machine :=
      ⟨⟨.folder [("app", .folder [("composer.json", .file [0x5B, 0x31, 0x5D])])], []⟩,
        .noGit, ["tmp"], []⟩
    content? m.disk (FilePath.join "app" "composer.json") = some (.array [.int 1]) ∧
      ((detect "app").run m).1 = .error (.noFields "list") := by
  intro m
  have hmanifest : content? m.disk (FilePath.join "app" "composer.json") =
      some (.array [.int 1]) := rfl
  have hlock : content? m.disk (FilePath.join "app" "composer.lock") = none := rfl
  refine ⟨hmanifest, ?_⟩
  rw [detect_fst, hlock, hmanifest]
  rfl

end RoutePaths.Composer
