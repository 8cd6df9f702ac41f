import RoutePaths.Proofs.Group.Raised
import RoutePaths.Proofs.Route.ResolvedPath

/-!
# RoutePaths.Proofs.Route.Records

The records of a text, told from its lines one by one: a record needs the
declaration of its line (`calls`), the prefix in force on it, and its number
(`resolve_eq_filterMap`).  So

* records stand in the order of their lines, one for a line at most
  (`pairwise_lineIndex_resolve`);
* files of one text have records of the same lines, whatever their prefixes and
  names (`resolve_eq_map_declared`);
* a text behind another one has the records that it has alone, only further
  down, if the text in front leaves no group open (`resolve_append`).
-/

namespace RoutePaths.Route

open RoutePaths.Group (Form Scan linePrefixes)

/-! ## records line by line -/

/-- The declarations of a text, line by line. -/
def calls (text : String) : List (Option Call) :=
  (Text.lines text).map fun line => Call.find? (Text.trim line)

/-- The record of a line, told from its declaration, if it has one, from the
prefix in force and from its number. -/
def record? (base sourceFile : String) : (Option Call × List Char) × Nat → Option Route
  | ((call, path), i) => call.map (ofCall base sourceFile i path)

/-- There is a place for a call on each line. -/
theorem length_calls (text : String) :
    (calls text).length = (linePrefixes Form.all text).length := by
  rw [calls, List.length_map, Group.length_linePrefixes]

/-- **The records of a text, line by line.** -/
theorem resolve_eq_filterMap (base sourceFile text : String) :
    resolve base sourceFile text =
      ((calls text).zip (linePrefixes Form.all text)).zipIdx.filterMap
        (record? base sourceFile) := by
  have hlines : ((calls text).zip (linePrefixes Form.all text)).zipIdx =
      (Text.lines text).zipIdx.map fun x =>
        ((Call.find? (Text.trim x.1), (linePrefixes Form.all text).getD x.2 []), x.2) := by
    apply List.ext_getElem
    · simp [Group.length_linePrefixes, calls]
    · intro i hi _
      have hi' : i < (linePrefixes Form.all text).length := by
        simp only [List.length_zipIdx, List.length_zip] at hi
        omega
      simp [calls, hi']
  rw [resolve, extract, extractFrom_eq_filterMap, hlines, List.filterMap_map]
  rfl

/-- Records stand in the order of their lines, one for a line at most. -/
theorem pairwise_lineIndex_resolve (base sourceFile text : String) :
    (resolve base sourceFile text).Pairwise (·.lineIndex < ·.lineIndex) :=
  pairwise_lineIndex_extract base sourceFile _ text

/-- The lines of a text that declare a route: their numbers, the prefixes in
force on them, and the declarations. -/
def declared (text : String) : List (Nat × List Char × Call) :=
  ((calls text).zip (linePrefixes Form.all text)).zipIdx.filterMap fun ((call, path), i) =>
    call.map fun call => (i, path, call)

/-- **The prefix and the name of a file** have no part in which lines declare a
route. -/
theorem resolve_eq_map_declared (base sourceFile text : String) :
    resolve base sourceFile text =
      (declared text).map fun (i, path, call) => ofCall base sourceFile i path call := by
  rw [resolve_eq_filterMap, declared, List.map_filterMap]
  congr 1
  funext ⟨⟨call, path⟩, i⟩
  cases call <;> rfl

/-- The record without the name of its file. -/
def unnamed (r : Route) : Route := { r with sourceFile := "" }

/-- Apart from its name, a file does not show in its records. -/
theorem map_unnamed_resolve (base sourceFile text : String) :
    (resolve base sourceFile text).map unnamed = resolve base "" text := by
  rw [resolve_eq_map_declared, resolve_eq_map_declared, List.map_map]
  rfl

/-- **Prefixes tell records apart**, if there are any, by their pieces. -/
theorem resolve_eq_resolve_iff (base other sourceFile text : String) :
    resolve base sourceFile text = resolve other sourceFile text ↔
      resolve base sourceFile text = [] ∨
        UrlPath.pieces base.toList = UrlPath.pieces other.toList := by
  have hrecord : ∀ x : Nat × List Char × Call,
      ofCall base sourceFile x.1 x.2.1 x.2.2 = ofCall other sourceFile x.1 x.2.1 x.2.2 ↔
        UrlPath.pieces base.toList = UrlPath.pieces other.toList := by
    intro x
    rw [← UrlPath.build_cons_eq_iff _ _ [x.2.1, x.2.2.path]]
    simp [ofCall, String.ofList_inj]
  rw [resolve_eq_map_declared, resolve_eq_map_declared, List.map_inj_left, List.map_eq_nil_iff]
  cases declared text with
  | nil => exact iff_of_true (List.forall_mem_nil _) (.inl rfl)
  | cons x xs =>
    constructor
    · exact fun h => .inr ((hrecord x).mp (h x (List.mem_cons_self ..)))
    · rintro (h | h)
      · contradiction
      · exact fun y _ => (hrecord y).mpr h

/-! ## one text behind another -/

/-- The record `n` lines further down. -/
def movedDown (n : Nat) (r : Route) : Route := { r with lineIndex := r.lineIndex + n }

/-- A record of a later line is the same record moved down. -/
theorem record?_add (base sourceFile : String) (x : Option Call × List Char) (n i : Nat) :
    record? base sourceFile (x, n + i) = (record? base sourceFile (x, i)).map (movedDown n) := by
  obtain ⟨call, path⟩ := x
  cases call with
  | none => rfl
  | some call => simp [record?, movedDown, ofCall, Int.add_comm]

/-- The calls of two texts, one below the other, are those of the first and those of the second. -/
theorem calls_append (a b : String) : calls (a ++ "\n" ++ b) = calls a ++ calls b := by
  rw [calls, Text.lines_append, List.map_append]
  rfl

/-- **Parts of a file are resolved on their own**: behind a text that leaves no
group open, whatever its braces, a text has the records that it has alone,
further down by the lines in front. -/
theorem resolve_append (base sourceFile : String) {a : String} (b : String)
    (hclosed : (Scan.run Form.all {} (Text.lines a)).scopes = []) :
    resolve base sourceFile (a ++ "\n" ++ b) =
      resolve base sourceFile a ++
        (resolve base sourceFile b).map (movedDown (Text.lines a).length) := by
  have hlength : ((calls a).zip (linePrefixes Form.all a)).length = (Text.lines a).length := by
    rw [List.length_zip, length_calls, Group.length_linePrefixes, Nat.min_self]
  have hback : (((calls b).zip (linePrefixes Form.all b)).zipIdx (Text.lines a).length).filterMap
      (record? base sourceFile) =
        (resolve base sourceFile b).map (movedDown (Text.lines a).length) := by
    rw [resolve_eq_filterMap, List.map_filterMap, List.zipIdx_eq_map_add, List.filterMap_map]
    congr 1
    funext x
    exact record?_add ..
  rw [resolve_eq_filterMap, calls_append, Group.linePrefixes_append b hclosed,
    List.zip_append (length_calls a), List.zipIdx_append, List.filterMap_append, hlength,
    Nat.zero_add, hback, ← resolve_eq_filterMap]

/-- Closing braces too many in front, with a group among them. -/
theorem resolve_append_unbalanced :
    let a := "\x7d\x7d);\nRoute::prefix('x')->group(f \x7b\nRoute::get('/in', f);\n\x7d); \x7d"
    let b := "Route::prefix('y')->group(f \x7b\nRoute::get('/b', f);\n\x7d);\nRoute::any('c', f);"
    (Scan.run Form.all {} (Text.lines a)).scopes = [] ∧
      resolve "api" "" (a ++ "\n" ++ b) =
        resolve "api" "" a ++ (resolve "api" "" b).map (movedDown (Text.lines a).length) := by
  intro a b
  have hclosed : (Scan.run Form.all {} (Text.lines a)).scopes = [] := by decide
  exact ⟨hclosed, resolve_append "api" "" b hclosed⟩

end RoutePaths.Route
