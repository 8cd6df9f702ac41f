import RoutePaths.Proofs.Text.Lines
import RoutePaths.Proofs.UrlPath.Pieces
import RoutePaths.RouteFile

/-!
# RoutePaths.Proofs.RouteFile

What the prefix of a route file depends on: the last part of its path, and
whether a folder `routes` is anywhere before it.  So more folders in front of a
path that names a route file make no difference (`basePrefix_append`).
-/

namespace RoutePaths.RouteFile

variable {path : String}

/-! ## the parts of a path -/

/-- The parts of a path, between slashes of either kind. -/
def parts (path : String) : List (List Char) := Text.splitOn '/' (slashed path)

theorem parts_ne_nil (path : String) : parts path ≠ [] := Text.splitOn_ne_nil '/' _

/-- The parts of a path below a folder are those of the folder and its own. -/
theorem parts_append (folder path : String) :
    parts (folder ++ "/" ++ path) = parts folder ++ parts path := by
  have hslashed : slashed (folder ++ "/" ++ path) = slashed folder ++ '/' :: slashed path := by
    have hslash : "/".toList = ['/'] := rfl
    rw [slashed, String.toList_append, String.toList_append, hslash, List.append_assoc,
      List.map_append, List.singleton_append, List.map_cons]
    rfl
  rw [parts, hslashed, Text.splitOn_append_cons]
  rfl

theorem name_eq (path : String) : name path = (parts path).getLastD [] := rfl

/-- A route file ends in `.php` and stands somewhere below a folder of routes. -/
theorem isRouteFile_iff :
    isRouteFile path = true ↔
      ".php".toList <:+ path.toList ∧ "routes".toList ∈ (parts path).dropLast := by
  rw [isRouteFile, Bool.and_eq_true, List.isSuffixOf_iff_suffix, List.contains_iff_mem]
  rfl

/-! ## folders in front -/

/-- The name of a file is the same from every folder. -/
theorem name_append (folder path : String) : name (folder ++ "/" ++ path) = name path := by
  rcases List.eq_nil_or_concat (parts path) with hnil | ⟨front, part, hparts⟩
  · exact absurd hnil (parts_ne_nil path)
  · rw [name_eq, name_eq, parts_append, hparts, List.concat_eq_append, ← List.append_assoc,
      List.getLastD_concat, List.getLastD_concat]

/-- A route file is one with more folders in front. -/
theorem isRouteFile_append (h : isRouteFile path = true) (folder : String) :
    isRouteFile (folder ++ "/" ++ path) = true := by
  obtain ⟨hphp, hroutes⟩ := isRouteFile_iff.mp h
  refine isRouteFile_iff.mpr ⟨?_, ?_⟩
  · rw [String.toList_append]
    exact hphp.trans (List.suffix_append ..)
  · rw [parts_append, List.dropLast_append_of_ne_nil (parts_ne_nil path)]
    exact List.mem_append_right _ hroutes

/-- A `.php` file below a folder `routes` is a route file. -/
theorem isRouteFile_routes (h : ".php".toList <:+ path.toList) :
    isRouteFile ("routes/" ++ path) = true := by
  refine isRouteFile_iff.mpr ⟨?_, ?_⟩
  · rw [String.toList_append]
    exact h.trans (List.suffix_append ..)
  · have hparts : parts ("routes/" ++ path) = parts "routes" ++ parts path :=
      parts_append "routes" path
    rw [hparts, List.dropLast_append_of_ne_nil (parts_ne_nil path)]
    exact List.mem_append_left _ (by decide)

/-! ## prefixes -/

/-- The prefix that a name stands for. -/
def prefixOfName (name : List Char) : String :=
  if name = "api.php".toList then "api"
  else match version? name with
    | some version => String.ofList ("api/".toList ++ version)
    | none => ""

/-- A route file has the prefix of its name, and any other file has none. -/
theorem basePrefix_eq (path : String) :
    basePrefix path = if isRouteFile path then prefixOfName (name path) else "" := by
  rw [basePrefix, prefixOfName]
  cases isRouteFile path <;> rfl

/-- A file that is no route file has no prefix. -/
theorem basePrefix_of_not_isRouteFile (h : ¬isRouteFile path = true) : basePrefix path = "" := by
  rw [basePrefix_eq, if_neg h]

/-- **Folders in front** do not change the prefix of a route file. -/
theorem basePrefix_append (h : isRouteFile path = true) (folder : String) :
    basePrefix (folder ++ "/" ++ path) = basePrefix path := by
  rw [basePrefix_eq, basePrefix_eq, if_pos h, if_pos (isRouteFile_append h folder), name_append]

/-- A prefix that says anything has a piece. -/
theorem pieces_basePrefix_ne_nil (h : basePrefix path ≠ "") :
    UrlPath.pieces (basePrefix path).toList ≠ [] := by
  have hname : ∀ name, prefixOfName name ≠ "" → UrlPath.pieces (prefixOfName name).toList ≠ [] := by
    intro name hne
    rw [prefixOfName] at hne ⊢
    split
    · decide
    · next hapi =>
      rw [if_neg hapi] at hne
      split
      · next version _ =>
        have hparted : "api/".toList ++ version = "api".toList ++ '/' :: version := rfl
        rw [String.toList_ofList, hparted, UrlPath.pieces_append_slash]
        exact List.append_ne_nil_of_left_ne_nil (by decide) _
      · next hnone =>
        rw [hnone] at hne
        contradiction
  rw [basePrefix_eq] at h ⊢
  split
  · next hfile =>
    rw [if_pos hfile] at h
    exact hname _ h
  · next hfile =>
    rw [if_neg hfile] at h
    contradiction

end RoutePaths.RouteFile
