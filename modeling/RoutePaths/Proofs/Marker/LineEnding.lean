import RoutePaths.Marker
import RoutePaths.Proofs.Group.Opening
import RoutePaths.Proofs.Route.Call
import RoutePaths.Proofs.Route.Records
import RoutePaths.Proofs.Text.LineEnding

/-!
# RoutePaths.Proofs.Marker.LineEnding

Line endings do not matter: a text with a carriage return before every line feed
has the same routes, and their markers stand in front of the carriage returns
(`annotate_crlf`).  Carriage returns at the end of a line are blank, so neither
the scan of groups nor the routes see them; markers hold no line feed, because
all characters of a full path but its slashes come from the prefix of the file
and from the lines of the text (`mem_of_mem_resolvedPath`).
-/

namespace RoutePaths

/-! ## where the characters of a path come from -/

/-- The literal of a group stands in the line that opens it. -/
theorem Group.infix_of_literal? {forms : List Group.Form} {line literal : List Char}
    (h : Group.literal? forms line = some literal) : literal <:+: line := by
  obtain ⟨t, rest, ht, hquoted⟩ := Group.exists_suffix_of_opening? h
  calc literal <:+: t := Text.infix_of_quoted hquoted
    _ <:+: Text.trim line := ht.isInfix
    _ <:+: line := Text.trim_infix_self line

namespace Route

/-- **The characters of a full path**, slashes aside, are those of the prefix of
the file and of the lines. -/
theorem mem_of_mem_resolvedPath {base sourceFile text : String} {r : Route} {c : Char}
    (h : r ∈ resolve base sourceFile text) (hc : c ∈ r.resolvedPath.toList) :
    c = '/' ∨ c ∈ base.toList ∨ ∃ line ∈ Text.lines text, c ∈ line := by
  obtain ⟨i, line, call, hline, hcall, rfl⟩ := mem_resolve_iff.mp h
  have hmem := List.mem_of_getElem? hline
  simp only [ofCall, String.toList_ofList] at hc
  rw [Group.Scan.path_run_eq_foldl, build_foldl_nest] at hc
  rcases List.mem_cons.mp hc with rfl | hc
  · exact .inl rfl
  rcases Text.mem_of_mem_joinWith hc with hslash | ⟨piece, hpiece, hc⟩
  · exact .inl (List.mem_singleton.mp hslash)
  rw [List.mem_append, List.mem_append] at hpiece
  rcases hpiece with (hbase | hliterals) | hraw
  · exact .inr (.inl (UrlPath.mem_of_mem_pieces hbase hc))
  · obtain ⟨literal, hliteral, hpiece⟩ := List.mem_flatMap.mp hliterals
    obtain ⟨line', hline', hopens⟩ := Group.Scan.exists_line_of_mem_literals hliteral
    have hc : c ∈ literal := UrlPath.mem_of_mem_pieces hpiece hc
    have hline' : line' ∈ Text.lines text := List.mem_of_mem_take hline'
    exact .inr (.inr ⟨line', hline', (Group.infix_of_literal? hopens).subset hc⟩)
  · have hc : c ∈ call.path := UrlPath.mem_of_mem_pieces hraw hc
    have hstands : call.path <:+: line :=
      (Call.standsIn_of_find? hcall).path.trans (Text.trim_infix_self line)
    exact .inr (.inr ⟨line, hmem, hstands.subset hc⟩)

end Route

/-! ## records -/

/-- A carriage return at the end of a line means nothing to the scan. -/
theorem Group.interchangeable_append_return (forms : List Group.Form) (line : List Char) :
    Group.Interchangeable forms (line ++ ['\r']) line where
  balance := by
    rw [Group.braceBalance_append, show Group.braceBalance ['\r'] = 0 by decide, Int.add_zero]
  literal := by
    rw [Group.literal?, Text.trim_append_return]
    rfl

/-- Nor do carriage returns at the end of all lines. -/
theorem Group.interchangeable_returned (forms : List Group.Form) (ls : List (List Char)) :
    List.Forall₂ (Group.Interchangeable forms) (Text.returned ls) ls := by
  induction ls with
  | nil => exact .nil
  | cons line ls ih =>
    refine .cons ?_ ih
    split
    · exact .refl line
    · exact interchangeable_append_return forms line

/-- Carriage returns change no record. -/
theorem Route.resolve_crlf (base sourceFile text : String) :
    resolve base sourceFile (Text.crlf text) = resolve base sourceFile text := by
  have hcalls : calls (Text.crlf text) = calls text := by
    rw [calls, Text.lines_crlf]
    exact Text.map_returned (fun line => by rw [Text.trim_append_return]) _
  have hprefixes : Group.linePrefixes Group.Form.all (Text.crlf text) =
      Group.linePrefixes Group.Form.all text := by
    refine Group.linePrefixes_eq_of_interchangeable ?_
    rw [Text.lines_crlf]
    exact Group.interchangeable_returned _ _
  rw [resolve_eq_filterMap, hcalls, hprefixes, ← resolve_eq_filterMap]

/-- No line has two records. -/
theorem Route.pairwise_lineIndex_toNat (base sourceFile text : String) :
    (resolve base sourceFile text).Pairwise (·.lineIndex.toNat ≠ ·.lineIndex.toNat) := by
  have hindex : ∀ r ∈ resolve base sourceFile text, 0 ≤ r.lineIndex := by
    intro r hr
    obtain ⟨i, line, call, -, -, rfl⟩ := mem_resolve_iff.mp hr
    exact Int.natCast_nonneg i
  refine (pairwise_lineIndex_resolve base sourceFile text).imp_of_mem fun hr _ hlt => ?_
  have := hindex _ hr
  omega

/-! ## markers -/

namespace Marker

open Text (returned)

/-- A marker stands in front of the carriage return. -/
theorem append_append_return (marker : List Char) {line : List Char}
    (h : line.getLast? ≠ some '\r') :
    append marker (line ++ ['\r']) = append marker line ++ ['\r'] := by
  simp [append, h]

variable {glyph : String} {ls : List (List Char)} {r : Route} {routes : List Route}

/-- The lines of the routes do not end in a carriage return. -/
def Bare (ls : List (List Char)) (routes : List Route) : Prop :=
  ∀ r ∈ routes, ∀ line, ls[r.lineIndex.toNat]? = some line → line.getLast? ≠ some '\r'

/-- Marking a line and ending all lines in carriage returns can be done in either order. -/
theorem mark_returned (h : ∀ line, ls[r.lineIndex.toNat]? = some line → line.getLast? ≠ some '\r') :
    mark glyph (returned ls) r = returned (mark glyph ls r) := by
  rw [mark, mark]
  split
  · exact Text.modify_returned fun line hline => append_append_return _ (h line hline)
  · rfl

/-- One route marks its line and no other. -/
theorem getElem?_mark (glyph : String) (ls : List (List Char)) (r : Route) (i : Nat) :
    (mark glyph ls r)[i]? =
      ls[i]?.map fun line =>
        if r.lineIndex = i then append (text glyph defaultLabel r).toList line else line := by
  rw [mark]
  split
  · have hindex : r.lineIndex.toNat = i ↔ r.lineIndex = i := by omega
    simp only [List.getElem?_modify, hindex]
    rfl
  · have hindex : r.lineIndex ≠ i := by omega
    simp [hindex]

/-- A marker leaves the other lines as they are. -/
theorem getElem?_mark_of_ne {i : Nat} (h : r.lineIndex.toNat ≠ i) :
    (mark glyph ls r)[i]? = ls[i]? := by
  have hindex : r.lineIndex ≠ i := by omega
  simp [getElem?_mark, hindex]

/-- **Markers are the same** with and without carriage returns, line by line, if no
line gets more than one: a path may end in a carriage return, and so its marker. -/
theorem foldl_mark_returned (hbare : Bare ls routes)
    (hlines : routes.Pairwise (·.lineIndex.toNat ≠ ·.lineIndex.toNat)) :
    routes.foldl (mark glyph) (returned ls) = returned (routes.foldl (mark glyph) ls) := by
  induction routes generalizing ls with
  | nil => rfl
  | cons r routes ih =>
    obtain ⟨hother, hrest⟩ := List.pairwise_cons.mp hlines
    have hbare' : Bare (mark glyph ls r) routes := by
      intro r' hr' line hline
      rw [getElem?_mark_of_ne (hother r' hr')] at hline
      exact hbare r' (List.mem_cons_of_mem r hr') line hline
    rw [List.foldl_cons, mark_returned (hbare r (List.mem_cons_self ..)), ih hbare' hrest]
    rfl

/-- Markers hold no line feed. -/
theorem noBreak_text {base sourceFile source : String} (hbase : '\n' ∉ base.toList)
    (hglyph : '\n' ∉ glyph.toList) (hr : r ∈ Route.resolve base sourceFile source) :
    '\n' ∉ (text glyph defaultLabel r).toList := by
  have hpath : '\n' ∉ r.resolvedPath.toList := by
    intro hmem
    rcases Route.mem_of_mem_resolvedPath hr hmem with hslash | hmem | ⟨line, hline, hmem⟩
    · contradiction
    · exact hbase hmem
    · exact Text.noBreak_of_mem_lines hline hmem
  have hlabel : '\n' ∉ (" " ++ defaultLabel ++ ": ").toList := by decide
  simp only [text, String.toList_append, List.mem_append, not_or] at hlabel ⊢
  exact ⟨⟨⟨⟨hglyph, hlabel.1.1⟩, hlabel.1.2⟩, hlabel.2⟩, hpath⟩

/-- A marker without a line break leaves a line one line. -/
theorem noBreak_append {marker line : List Char} (hmarker : '\n' ∉ marker)
    (hline : '\n' ∉ line) : '\n' ∉ append marker line := by
  have hdropped : '\n' ∉ line.dropLast := fun hmem => hline (List.mem_of_mem_dropLast hmem)
  rw [append]
  split
  · simp [hmarker, hdropped]
  · simp [hmarker, hline]

/-- A marker without a line feed gives the lines none. -/
theorem noBreak_mark (hmarker : '\n' ∉ (text glyph defaultLabel r).toList)
    (hlines : ∀ line ∈ ls, '\n' ∉ line) : ∀ line ∈ mark glyph ls r, '\n' ∉ line := by
  intro line hline
  obtain ⟨i, hi⟩ := List.mem_iff_getElem?.mp hline
  rw [getElem?_mark] at hi
  obtain ⟨line', hline', rfl⟩ := Option.map_eq_some_iff.mp hi
  have hbefore := hlines line' (List.mem_of_getElem? hline')
  split
  · exact noBreak_append hmarker hbefore
  · exact hbefore

/-- Markers without a line break leave every line one line. -/
theorem noBreak_foldl_mark
    (hmarkers : ∀ r ∈ routes, '\n' ∉ (text glyph defaultLabel r).toList)
    (hlines : ∀ line ∈ ls, '\n' ∉ line) :
    ∀ line ∈ routes.foldl (mark glyph) ls, '\n' ∉ line := by
  induction routes generalizing ls with
  | nil => exact hlines
  | cons r routes ih =>
    exact ih (fun r' hr' => hmarkers r' (List.mem_cons_of_mem r hr'))
      (noBreak_mark (hmarkers r (List.mem_cons_self ..)) hlines)

/-- **Line endings do not matter**: with a carriage return before every line feed,
a text has the same routes, and with their markers it is the marked text with a
carriage return before every line feed. -/
theorem annotate_crlf {base glyph source : String} (sourceFile : String)
    (hlines : ∀ line ∈ Text.lines source, line.getLast? ≠ some '\r')
    (hbase : '\n' ∉ base.toList) (hglyph : '\n' ∉ glyph.toList) :
    Route.resolve base sourceFile (Text.crlf source) = Route.resolve base sourceFile source ∧
      annotate glyph (Text.crlf source) (Route.resolve base sourceFile (Text.crlf source)) =
        Text.crlf (annotate glyph source (Route.resolve base sourceFile source)) := by
  have hroutes := Route.resolve_crlf base sourceFile source
  have hbare : Bare (Text.lines source) (Route.resolve base sourceFile source) :=
    fun r _ line hline => hlines line (List.mem_of_getElem? hline)
  have hmarkers : ∀ r ∈ Route.resolve base sourceFile source,
      '\n' ∉ (text glyph defaultLabel r).toList := fun r hr => noBreak_text hbase hglyph hr
  have hnoBreak : ∀ line ∈ (Route.resolve base sourceFile source).foldl (mark glyph)
      (Text.lines source), '\n' ∉ line :=
    noBreak_foldl_mark hmarkers fun line hline => Text.noBreak_of_mem_lines hline
  refine ⟨hroutes, ?_⟩
  rw [hroutes, annotate, annotate, Text.crlf_unlines hnoBreak, Text.lines_crlf,
    foldl_mark_returned hbare (Route.pairwise_lineIndex_toNat base sourceFile source)]

/-- A path that ends in a carriage return, a group, and a route on the last line. -/
theorem annotate_crlf_returns :
    let source :=
      "Route::prefix('a')->group(f \x7b\nRoute::get('x\r', f);\n\x7d);\nRoute::any('y', f)"
    (∀ line ∈ Text.lines source, line.getLast? ≠ some '\r') ∧ '\n' ∉ "api".toList ∧
      '\n' ∉ defaultGlyph.toList ∧
      Route.resolve "api" "" (Text.crlf source) = Route.resolve "api" "" source ∧
        annotate defaultGlyph (Text.crlf source) (Route.resolve "api" "" (Text.crlf source)) =
          Text.crlf (annotate defaultGlyph source (Route.resolve "api" "" source)) := by
  intro source
  have hlines : ∀ line ∈ Text.lines source, line.getLast? ≠ some '\r' := by decide
  have hbase : '\n' ∉ "api".toList := by decide
  have hglyph : '\n' ∉ defaultGlyph.toList := by decide
  exact ⟨hlines, hbase, hglyph, annotate_crlf "" hlines hbase hglyph⟩

end Marker

end RoutePaths
