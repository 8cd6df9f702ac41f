import RoutePaths.Proofs.Marker.LineEnding

/-!
# RoutePaths.Proofs.Marker.Appended

Markers only append.  Every line of a marked text is the line of the text, then the
markers of its routes in their order, and then the carriage return of the line, if
it ends in one (`annotate_appends`).

Lines are marked one route at a time, so later markers are written into lines that
have earlier ones; what is behind a line and what is its carriage return stays told
apart as long as no marker ends in a carriage return itself (`body_append`,
`ending_append`).
-/

namespace RoutePaths.Marker

variable {glyph source : String} {marker : List Char} {r : Route} {routes others : List Route}

/-! ## lines and their carriage returns -/

/-- A line without the carriage return at its end. -/
def body (line : List Char) : List Char :=
  if line.getLast? = some '\r' then line.dropLast else line

/-- The carriage return at the end of a line, if it ends in one. -/
def ending (line : List Char) : List Char :=
  if line.getLast? = some '\r' then ['\r'] else []

/-- A line is its body and its ending. -/
theorem body_append_ending (line : List Char) : body line ++ ending line = line := by
  rw [body, ending]
  split
  · next h => exact List.dropLast_append_getLast? _ h
  · exact List.append_nil line

/-- A marker stands between a line and its carriage return. -/
theorem append_eq (marker line : List Char) :
    append marker line = body line ++ (' ' :: ' ' :: marker) ++ ending line := by
  rw [append, body, ending]
  split <;> simp

/-- The marker stays in its line, and what is behind it can be told from it. -/
structure IsInline (marker : List Char) : Prop where
  noBreak : '\n' ∉ marker
  noReturn : marker.getLast? ≠ some '\r'

instance (marker : List Char) : Decidable (IsInline marker) :=
  decidable_of_iff ('\n' ∉ marker ∧ marker.getLast? ≠ some '\r')
    ⟨fun ⟨h₁, h₂⟩ => ⟨h₁, h₂⟩, fun h => ⟨h.noBreak, h.noReturn⟩⟩

/-- A marker leaves a carriage return at the end of its line. -/
theorem getLast?_append_eq_iff (h : marker.getLast? ≠ some '\r') (line : List Char) :
    (append marker line).getLast? = some '\r' ↔ line.getLast? = some '\r' := by
  have hblank : (' ' :: ' ' :: marker).getLast? ≠ some '\r' := by
    cases marker with
    | nil => decide
    | cons c marker => simpa using h
  rw [append_eq, ending]
  split
  · next hline => exact iff_of_true List.getLast?_concat hline
  · next hline =>
    rw [List.append_nil, List.getLast?_append_of_ne_nil _ (List.cons_ne_nil _ _)]
    exact iff_of_false hblank hline

/-- The carriage return of a line is not part of what one more marker finds. -/
theorem ending_append (h : marker.getLast? ≠ some '\r') (line : List Char) :
    ending (append marker line) = ending line := by
  simp only [ending, getLast?_append_eq_iff h]

/-- A marker stands behind the body of its line. -/
theorem body_append (h : marker.getLast? ≠ some '\r') (line : List Char) :
    body (append marker line) = body line ++ ' ' :: ' ' :: marker := by
  have hwhole : body (append marker line) ++ ending line =
      body line ++ (' ' :: ' ' :: marker) ++ ending line := by
    calc body (append marker line) ++ ending line
        = body (append marker line) ++ ending (append marker line) := by rw [ending_append h]
      _ = append marker line := body_append_ending _
      _ = body line ++ (' ' :: ' ' :: marker) ++ ending line := append_eq marker line
  exact List.append_cancel_right hwhole

/-! ## all markers -/

/-- What the routes of a line write behind it. -/
def written (glyph : String) (routes : List Route) (i : Int) : List Char :=
  (routes.filter (·.lineIndex = i)).flatMap fun r =>
    ' ' :: ' ' :: (text glyph defaultLabel r).toList

/-- A line with the markers of its routes. -/
def marked (glyph : String) (routes : List Route) (i : Nat) (line : List Char) : List Char :=
  body line ++ written glyph routes i ++ ending line

/-- A line without routes is not marked. -/
theorem marked_eq_self {i : Nat} (h : ∀ r ∈ routes, r.lineIndex ≠ i) (line : List Char) :
    marked glyph routes i line = line := by
  have hnone : routes.filter (·.lineIndex = (i : Int)) = [] :=
    List.filter_eq_nil_iff.mpr fun r hr => by simpa using h r hr
  rw [marked, written, hnone, List.flatMap_nil, List.append_nil, body_append_ending]

/-- A marker is the first of those that a line gets, and the others follow it. -/
theorem marked_append (h : (text glyph defaultLabel r).toList.getLast? ≠ some '\r') (i : Nat)
    (line : List Char) :
    marked glyph routes i
        (if r.lineIndex = i then append (text glyph defaultLabel r).toList line else line) =
      marked glyph (r :: routes) i line := by
  split
  · next hindex => simp [marked, body_append h, ending_append h, written, hindex]
  · next hindex => simp [marked, written, hindex]

/-- **Routes mark their lines**, one after the other. -/
theorem foldl_mark_eq_mapIdx
    (h : ∀ r ∈ routes, (text glyph defaultLabel r).toList.getLast? ≠ some '\r')
    (ls : List (List Char)) : routes.foldl (mark glyph) ls = ls.mapIdx (marked glyph routes) := by
  induction routes generalizing ls with
  | nil =>
    refine List.ext_getElem? fun i => ?_
    rw [List.getElem?_mapIdx, funext (marked_eq_self (List.forall_mem_nil _)), Option.map_id']
    rfl
  | cons r routes ih =>
    obtain ⟨hr, hroutes⟩ := List.forall_mem_cons.mp h
    rw [List.foldl_cons, ih hroutes]
    refine List.ext_getElem? fun i => ?_
    rw [List.getElem?_mapIdx, List.getElem?_mapIdx, getElem?_mark, Option.map_map]
    exact congrArg (ls[i]?.map ·) (funext fun line => marked_append hr i line)

/-- A text is marked by what its routes write behind its lines. -/
theorem annotate_congr (h : ∀ r ∈ routes, IsInline (text glyph defaultLabel r).toList)
    (h' : ∀ r ∈ others, IsInline (text glyph defaultLabel r).toList)
    (hwritten : ∀ i < (Text.lines source).length, written glyph others i = written glyph routes i) :
    annotate glyph source others = annotate glyph source routes := by
  rw [annotate, annotate, foldl_mark_eq_mapIdx fun r hr => (h r hr).noReturn,
    foldl_mark_eq_mapIdx fun r hr => (h' r hr).noReturn]
  refine congrArg Text.unlines (List.ext_getElem? fun i => ?_)
  rw [List.getElem?_mapIdx, List.getElem?_mapIdx]
  by_cases hi : i < (Text.lines source).length
  · have hmarked : marked glyph others i = marked glyph routes i :=
      funext fun line => by rw [marked, marked, hwritten i hi]
    rw [hmarked]
  · rw [List.getElem?_eq_none (Nat.le_of_not_lt hi)]
    rfl

/-- **Markers only append**, if they stay in their lines.  The lines of the marked
text are the lines of the text, each with the markers of its routes in front of its
carriage return.  So a line without routes is as it was, routes of lines that are
not there write nothing, and only the order among the routes of one line counts. -/
theorem annotate_appends (h : ∀ r ∈ routes, IsInline (text glyph defaultLabel r).toList) :
    Text.lines (annotate glyph source routes) =
        (Text.lines source).mapIdx (fun i line =>
          body line ++ written glyph routes i ++ ending line) ∧
      (∀ i : Nat, (∀ r ∈ routes, r.lineIndex ≠ i) →
        (Text.lines (annotate glyph source routes))[i]? = (Text.lines source)[i]?) ∧
      annotate glyph source (routes.filter fun r =>
          0 ≤ r.lineIndex ∧ r.lineIndex < (Text.lines source).length) =
        annotate glyph source routes ∧
      ∀ others : List Route,
        (∀ i, others.filter (·.lineIndex = i) = routes.filter (·.lineIndex = i)) →
        annotate glyph source others = annotate glyph source routes := by
  have hlines : Text.lines (annotate glyph source routes) =
      (Text.lines source).mapIdx (marked glyph routes) := by
    have hnoBreak : ∀ line ∈ routes.foldl (mark glyph) (Text.lines source), '\n' ∉ line :=
      noBreak_foldl_mark (fun r hr => (h r hr).noBreak)
        fun line hline => Text.noBreak_of_mem_lines hline
    rw [foldl_mark_eq_mapIdx fun r hr => (h r hr).noReturn] at hnoBreak
    have hne : (Text.lines source).mapIdx (marked glyph routes) ≠ [] := by
      rw [Ne, List.mapIdx_eq_nil_iff]
      exact Text.splitOn_ne_nil '\n' source.toList
    rw [annotate, foldl_mark_eq_mapIdx fun r hr => (h r hr).noReturn, Text.unlines, Text.lines,
      String.toList_ofList, Text.splitOn_joinWith hnoBreak hne]
  refine ⟨hlines, fun i hi => ?_, ?_, fun others hothers => ?_⟩
  · rw [hlines, List.getElem?_mapIdx, funext (marked_eq_self hi), Option.map_id']
  · refine annotate_congr h (fun r hr => h r (List.mem_of_mem_filter hr)) fun i hi => ?_
    rw [written, written, List.filter_filter]
    congr 1
    refine List.filter_congr fun r _ => ?_
    simp only [← Bool.decide_and]
    exact decide_eq_decide.mpr ⟨And.left, fun hindex => ⟨hindex, by omega⟩⟩
  · refine annotate_congr h (fun r hr => h r ?_) fun i _ => by rw [written, written, hothers]
    have hmem : r ∈ others.filter (·.lineIndex = r.lineIndex) := by simpa using hr
    rw [hothers] at hmem
    exact List.mem_of_mem_filter hmem

/-- Two markers of a line with a carriage return, one of the last line, and routes
before the first line and behind the last one. -/
theorem annotate_appends_unordered :
    let source := "a\r\n\nb"
    let routes : List Route :=
      [⟨2, "GET", "y", "/y", "", ""⟩, ⟨0, "GET", "w", "/w", "", ""⟩, ⟨-1, "GET", "", "/", "", ""⟩,
        ⟨0, "PUT", "v", "/v", "", ""⟩, ⟨3, "GET", "z", "/z", "", ""⟩]
    (∀ r ∈ routes, IsInline (text "*" defaultLabel r).toList) ∧
      Text.lines (annotate "*" source routes) =
          (Text.lines source).mapIdx (fun i line =>
            body line ++ written "*" routes i ++ ending line) ∧
        (∀ i : Nat, (∀ r ∈ routes, r.lineIndex ≠ i) →
          (Text.lines (annotate "*" source routes))[i]? = (Text.lines source)[i]?) ∧
        annotate "*" source (routes.filter fun r =>
            0 ≤ r.lineIndex ∧ r.lineIndex < (Text.lines source).length) =
          annotate "*" source routes ∧
        ∀ others : List Route,
          (∀ i, others.filter (·.lineIndex = i) = routes.filter (·.lineIndex = i)) →
          annotate "*" source others = annotate "*" source routes := by
  intro source routes
  have h : ∀ r ∈ routes, IsInline (text "*" defaultLabel r).toList := by decide
  exact ⟨h, annotate_appends h⟩

end RoutePaths.Marker
