import RoutePaths.Proofs.Group.Scan
import RoutePaths.Proofs.UrlPath.Pieces
import RoutePaths.Route.Resolve

/-!
# RoutePaths.Proofs.Route.ResolvedPath

The full path of a route is made of the pieces of the file's prefix, of the
literals of all groups open on its line, outermost first, and of its own
literal, each piece behind one slash (`resolvedPath_eq_join`).  Slashes are
tidied up in several places on the way there — for every group, around every
segment and once more in the end — and none of them adds or loses a piece, so
it does not matter where the slashes were written.
-/

namespace RoutePaths.Route

open RoutePaths.Group (Form Scan)
open UrlPath (pieces nest build)

/-! ## records and their lines -/

/-- The records are those of the lines that declare a route. -/
theorem extractFrom_eq_filterMap (base sourceFile : String) (prefixOf : Nat → List Char)
    (index : Nat) (ls : List (List Char)) :
    extractFrom base sourceFile prefixOf index ls =
      (ls.zipIdx index).filterMap fun (line, i) =>
        (Call.find? (Text.trim line)).map (ofCall base sourceFile i (prefixOf i)) := by
  induction ls generalizing index with
  | nil => rfl
  | cons line ls ih =>
    rw [extractFrom, List.zipIdx_cons, List.filterMap_cons]
    cases hcall : Call.find? (Text.trim line) with
    | none => simp [hcall, ih]
    | some call => simp [hcall, ih]

/-- A record comes from a declaration on its line, and carries the prefix that
is known for the line. -/
theorem mem_extract_iff {base sourceFile text : String} {prefixOf : Nat → List Char} {r : Route} :
    r ∈ extract base sourceFile prefixOf text ↔
      ∃ i line call, (Text.lines text)[i]? = some line ∧
        Call.find? (Text.trim line) = some call ∧
        r = ofCall base sourceFile i (prefixOf i) call := by
  rw [extract, extractFrom_eq_filterMap]
  simp only [List.mem_filterMap, Prod.exists, List.mem_zipIdx_iff_getElem?, Option.map_eq_some_iff]
  constructor
  · rintro ⟨line, i, hline, call, hcall, rfl⟩
    exact ⟨i, line, call, hline, hcall, rfl⟩
  · rintro ⟨i, line, call, hline, hcall, rfl⟩
    exact ⟨line, i, hline, call, hcall, rfl⟩

/-- Records stand in the order of their lines, one for a line at most. -/
theorem pairwise_lineIndex_extract (base sourceFile : String) (prefixOf : Nat → List Char)
    (text : String) :
    (extract base sourceFile prefixOf text).Pairwise (·.lineIndex < ·.lineIndex) := by
  rw [extract, extractFrom_eq_filterMap]
  have hnumbers : (Text.lines text).zipIdx.Pairwise (·.2 < ·.2) := by
    rw [← List.pairwise_map, List.zipIdx_map_snd]
    exact List.pairwise_lt_range'
  refine hnumbers.filterMap _ fun x y hlt r hr r' hr' => ?_
  obtain ⟨call, -, rfl⟩ := Option.map_eq_some_iff.mp hr
  obtain ⟨call', -, rfl⟩ := Option.map_eq_some_iff.mp hr'
  exact Int.ofNat_lt.mpr hlt

/-- A record comes from a declaration on its line, and carries the prefix that
is in force after the line. -/
theorem mem_resolve_iff {base sourceFile text : String} {r : Route} :
    r ∈ resolve base sourceFile text ↔
      ∃ i line call, (Text.lines text)[i]? = some line ∧
        Call.find? (Text.trim line) = some call ∧
        r = ofCall base sourceFile i
          (Scan.run Form.all {} ((Text.lines text).take (i + 1))).path call := by
  have hforce : ∀ {i line}, (Text.lines text)[i]? = some line →
      (Group.linePrefixes Form.all text).getD i [] =
        (Scan.run Form.all {} ((Text.lines text).take (i + 1))).path := by
    intro i line hline
    have hi := (List.getElem?_eq_some_iff.mp hline).1
    rw [List.getD_eq_getElem?_getD, Group.getElem?_linePrefixes Form.all hi]
    rfl
  rw [resolve, mem_extract_iff]
  constructor
  · rintro ⟨i, line, call, hline, hcall, rfl⟩
    exact ⟨i, line, call, hline, hcall, by rw [hforce hline]⟩
  · rintro ⟨i, line, call, hline, hcall, rfl⟩
    exact ⟨i, line, call, hline, hcall, by rw [hforce hline]⟩

/-- A record names the file that it comes from. -/
theorem sourceFile_of_mem_resolve {base sourceFile text : String} {r : Route}
    (h : r ∈ resolve base sourceFile text) : r.sourceFile = sourceFile := by
  obtain ⟨i, line, call, -, -, rfl⟩ := mem_resolve_iff.mp h
  rfl

/-! ## full paths -/

/-- The pieces of a full path, segment by segment and group by group. -/
theorem build_foldl_nest (base raw : List Char) (literals : List (List Char)) :
    build [base, literals.foldl nest [], raw] =
      '/' :: Text.joinWith ['/'] (pieces base ++ literals.flatMap pieces ++ pieces raw) := by
  rw [UrlPath.build_eq_join_pieces]
  simp [UrlPath.pieces_foldl_nest]

/-- **Full paths**: the pieces of the file's prefix, of the literals of the open
groups, outermost first, and of the route's own literal, each behind a slash.
A file without a prefix has the empty one. -/
theorem resolvedPath_eq_join {base sourceFile text : String} {r : Route}
    (h : r ∈ resolve base sourceFile text) :
    ∃ i : Nat, r.lineIndex = i ∧ i < (Text.lines text).length ∧
      r.resolvedPath.toList =
        '/' :: Text.joinWith ['/']
          (pieces base.toList
            ++ (Scan.run Form.all {} ((Text.lines text).take (i + 1))).literals.flatMap pieces
            ++ pieces r.rawPath.toList) ∧
      UrlPath.IsNormal r.resolvedPath.toList := by
  obtain ⟨i, line, call, hline, -, rfl⟩ := mem_resolve_iff.mp h
  refine ⟨i, rfl, (List.getElem?_eq_some_iff.mp hline).1, ?_, ?_⟩
  · simp only [ofCall, String.toList_ofList]
    rw [Scan.path_run_eq_foldl, build_foldl_nest]
  · simp only [ofCall, String.toList_ofList]
    exact UrlPath.isNormal_build _

/-- Slashes at both ends, doubled slashes, and a group that has nothing else. -/
theorem resolvedPath_eq_join_slashes :
    let text := "Route::prefix('/a//b/')->group(function () \x7b\nRoute::prefix('/')->group(f\x7b\n"
      ++ "Route::get('//x/', 1);"
    let r : Route := ⟨2, "GET", "//x/", "/api/a/b/x", "/a/b/", ""⟩
    r ∈ resolve "api/" "" text ∧
      ∃ i : Nat, r.lineIndex = i ∧ i < (Text.lines text).length ∧
        r.resolvedPath.toList =
          '/' :: Text.joinWith ['/']
            (pieces "api/".toList
              ++ (Scan.run Form.all {} ((Text.lines text).take (i + 1))).literals.flatMap pieces
              ++ pieces r.rawPath.toList) ∧
        UrlPath.IsNormal r.resolvedPath.toList := by
  intro text r
  have h : r ∈ resolve "api/" "" text := by decide
  exact ⟨h, resolvedPath_eq_join h⟩

end RoutePaths.Route
