import Mathlib.Algebra.BigOperators.Group.List.Lemmas
import Mathlib.Algebra.GroupWithZero.Nat
import RoutePaths.Proofs.Ledger
import RoutePaths.Report

/-!
# RoutePaths.Proofs.Report.Account

The report gives an account of all routes, twice.  The table lists those that are shown,
each as often as it is there, by file and line (`Lists`), a row for each of them
(`HasRows`).  The summary splits all routes, shown or not, into those of each method and the
resources (`Summary.Accounts`), and is written in a line for each of its numbers
(`Summary.WrittenAs`); so it does not depend on what the table shows (`report_accounts`).
-/

namespace RoutePaths

/-! ## lists -/

/-- Items that may stand as they do keep their order when they are sorted among others. -/
theorem filter_mergeSort {α : Type} {le : α → α → Bool}
    (htrans : ∀ a b c, le a b → le b c → le a c) (htotal : ∀ a b, le a b || le b a)
    {xs : List α} {p : α → Bool} (hequal : (xs.filter p).Pairwise (le · ·)) :
    (xs.mergeSort le).filter p = xs.filter p := by
  have hsublist : (xs.filter p).Sublist (xs.mergeSort le) :=
    List.sublist_mergeSort htrans htotal hequal List.filter_sublist
  have hfiltered : (xs.filter p).Sublist ((xs.mergeSort le).filter p) := by
    simpa using hsublist.filter p
  have hlength := ((List.mergeSort_perm xs le).filter p).length_eq
  exact (hfiltered.eq_of_length hlength.symm).symm

/-- The counts of all that is in a list add up to its length. -/
theorem sum_map_count_of_nodup {α : Type} [DecidableEq α] {xs ys : List α} (hnodup : xs.Nodup)
    (hmem : ∀ x, x ∈ xs ↔ x ∈ ys) : (xs.map fun x => ys.count x).sum = ys.length := by
  have hperm : xs.Perm ys.dedup :=
    (List.perm_ext_iff_of_nodup hnodup ys.nodup_dedup).mpr fun x => by
      rw [hmem, List.mem_dedup]
  rw [(hperm.map _).sum_eq, List.sum_map_count_dedup_eq_length]

/-! ## the order of routes -/

namespace Route

/-- Routes are ordered by file and, in a file, by line. -/
theorem precedes_iff {a b : Route} : a.precedes b ↔
    a.sourceFile < b.sourceFile ∨ (a.sourceFile = b.sourceFile ∧ a.lineIndex ≤ b.lineIndex) := by
  simp [precedes]

theorem precedes_trans (a b c : Route) (hab : a.precedes b) (hbc : b.precedes c) :
    a.precedes c := by
  rw [precedes_iff] at hab hbc ⊢
  rcases hab with hab | ⟨hab, hline⟩ <;> rcases hbc with hbc | ⟨hbc, hline'⟩
  · exact .inl (String.lt_trans hab hbc)
  · exact .inl (hbc ▸ hab)
  · exact .inl (hab ▸ hbc)
  · exact .inr ⟨hab.trans hbc, Int.le_trans hline hline'⟩

theorem precedes_total (a b : Route) : a.precedes b || b.precedes a := by
  rw [Bool.or_eq_true, precedes_iff, precedes_iff]
  by_cases hfile : a.sourceFile = b.sourceFile
  · rcases Int.le_total a.lineIndex b.lineIndex with hline | hline
    · exact .inl (.inr ⟨hfile, hline⟩)
    · exact .inr (.inr ⟨hfile.symm, hline⟩)
  · rcases String.le_total a.sourceFile b.sourceFile with hle | hle
    · exact .inl (.inl (Std.lt_of_le_of_ne hle hfile))
    · exact .inr (.inl (Std.lt_of_le_of_ne hle (Ne.symm hfile)))

end Route

namespace Report

variable {routes : List Route}

/-! ## the table -/

/-- The rows are the routes, each as often as it is there, by file and line; those of one
line stand in the order of the routes. -/
structure Lists (rows routes : List Route) : Prop where
  perm : rows.Perm routes
  ordered : rows.Pairwise fun a b =>
    a.sourceFile < b.sourceFile ∨ (a.sourceFile = b.sourceFile ∧ a.lineIndex ≤ b.lineIndex)
  stable : ∀ file line,
    rows.filter (fun r => r.sourceFile = file ∧ r.lineIndex = line) =
      routes.filter fun r => r.sourceFile = file ∧ r.lineIndex = line

/-- The ordered routes are the routes, by file and line, and those of one line as they came. -/
theorem lists_ordered (routes : List Route) : Lists (Route.ordered routes) routes := by
  have hordered : (Route.ordered routes).Pairwise fun a b => a.precedes b :=
    List.pairwise_mergeSort Route.precedes_trans Route.precedes_total routes
  refine ⟨List.mergeSort_perm _ _, hordered.imp fun h => Route.precedes_iff.mp h, ?_⟩
  intro file line
  refine filter_mergeSort Route.precedes_trans Route.precedes_total ?_
  refine List.pairwise_of_forall_mem_list fun a ha b hb => ?_
  obtain ⟨hfile, hline⟩ := of_decide_eq_true (List.mem_filter.mp ha).2
  obtain ⟨hfile', hline'⟩ := of_decide_eq_true (List.mem_filter.mp hb).2
  exact Route.precedes_iff.mpr (.inr ⟨hfile.trans hfile'.symm, by omega⟩)

/-- The cells of the row of a route. -/
def cells (manyFiles : Bool) (r : Route) : List String :=
  (if manyFiles then [r.sourceFile] else []) ++
    [toString (r.lineIndex + 1), tagged (style r.method) r.methodLabel, r.resolvedPath, r.rawPath]

/-- The columns have these rows and no others. -/
structure HasRows (columns : List Console.Column) (rows : List (List String)) : Prop where
  length : ∀ column ∈ columns, column.cells.length = rows.length
  cell : ∀ (i : Nat) (row : List String), rows[i]? = some row →
    columns.map (·.cells[i]?) = row.map some

/-- A table has a row of cells for each route. -/
theorem hasRows_columns (manyFiles : Bool) (rows : List Route) :
    HasRows (columns manyFiles rows) (rows.map (cells manyFiles)) where
  length column hcolumn := by
    have hcells : ∀ column ∈ columns manyFiles rows, column.cells.length = rows.length := by
      cases manyFiles <;> simp [columns]
    rw [hcells column hcolumn, List.length_map]
  cell i row hrow := by
    rw [List.getElem?_map, Option.map_eq_some_iff] at hrow
    obtain ⟨r, hr, rfl⟩ := hrow
    cases manyFiles <;> simp [columns, cells, hr]

/-! ## the summary -/

/-- The summary splits the routes: it counts those of each method that is no resource,
each method once and in order, and the resources. -/
structure Summary.Accounts (s : Summary) (routes : List Route) : Prop where
  total : s.total = routes.length
  increasing : (s.counts.map Prod.fst).Pairwise (· < ·)
  named : ∀ method, method ∈ s.counts.map Prod.fst ↔
    ∃ r ∈ routes, r.isResource = false ∧ r.method = method
  counted : ∀ method n, (method, n) ∈ s.counts → n = routes.countP fun r => r.method = method
  resources : s.resources = routes.countP Route.isResource
  parts : (s.counts.map Prod.snd).sum + s.resources = s.total

/-- The methods are those of the routes that are no resources. -/
theorem mem_methods_iff {method : String} :
    method ∈ methods routes ↔ ∃ r ∈ routes, r.isResource = false ∧ r.method = method := by
  simp [methods, and_assoc]

/-- The counts are those of the methods. -/
theorem map_fst_counts (routes : List Route) :
    (summary routes).counts.map Prod.fst = methods routes := by
  simp [summary, Function.comp_def]

/-- No method comes twice, and they are in order. -/
theorem pairwise_lt_methods (routes : List Route) : (methods routes).Pairwise (· < ·) :=
  Ledger.pairwise_lt_mergeSort (f := id) (by simpa using nodup_eraseDups _)

/-- Of a method that is no resource, all routes are no resources. -/
theorem countP_method_eq_count {method : String} (hmethod : method ∈ methods routes) :
    (routes.countP fun r => r.method = method) =
      ((routes.filter (!·.isResource)).map Route.method).count method := by
  obtain ⟨r, -, hr, rfl⟩ := mem_methods_iff.mp hmethod
  rw [List.count_eq_countP, List.countP_map, List.countP_filter]
  refine List.countP_congr fun other _ => ?_
  have hother : other.method = r.method → other.isResource = false := fun heq => by
    rw [← hr, Route.isResource, Route.isResource, heq]
  simpa using hother

/-- **The parts** of the summary are all routes. -/
theorem sum_counts_add_resources (routes : List Route) :
    ((summary routes).counts.map Prod.snd).sum + (summary routes).resources = routes.length := by
  have hcounts : (summary routes).counts.map Prod.snd = (methods routes).map fun method =>
      ((routes.filter (!·.isResource)).map Route.method).count method := by
    rw [summary, List.map_map]
    exact List.map_congr_left fun method => countP_method_eq_count
  have hnodup : (methods routes).Nodup := (pairwise_lt_methods routes).imp Std.ne_of_lt
  have hmem : ∀ method, method ∈ methods routes ↔
      method ∈ (routes.filter (!·.isResource)).map Route.method := by
    simp [methods]
  rw [hcounts, sum_map_count_of_nodup hnodup hmem, List.length_map, ← List.countP_eq_length_filter,
    Nat.add_comm, List.length_eq_countP_add_countP Route.isResource (l := routes)]
  simp [summary]

/-- The summary accounts for the routes: its counts and the resources add up to the total. -/
theorem accounts_summary (routes : List Route) : (summary routes).Accounts routes where
  total := rfl
  increasing := map_fst_counts routes ▸ pairwise_lt_methods routes
  named method := by rw [map_fst_counts, mem_methods_iff]
  counted method n hmem := by
    obtain ⟨m, -, heq⟩ := List.mem_map.mp hmem
    obtain ⟨rfl, rfl⟩ := Prod.mk.inj heq
    rfl
  resources := rfl
  parts := sum_counts_add_resources routes

/-! ## the printed summary -/

/-- Blanks in a row. -/
def blanks (n : Nat) : String := String.ofList (List.replicate n ' ')

/-- The line of a method in a summary: the numbers stand below each other, behind names of
up to seventeen characters. -/
def countLine (method : String) (n : Nat) : String :=
  "  " ++ method ++ ":" ++ blanks (17 - method.length) ++ " " ++
    blanks (4 - (toString n).length) ++ toString n

/-- The lines in which a summary is written: its heading, the total, a line for each method,
and one for the resources if there are any. -/
structure Summary.WrittenAs (s : Summary) (texts : List String) : Prop where
  heading : texts[0]? = some "[bold]Summary:[/bold]"
  total : texts[1]? = some ("  Total routes:      " ++ toString s.total)
  count : ∀ (i : Nat) (method : String) (n : Nat), s.counts[i]? = some (method, n) →
    texts[i + 2]? = some (countLine method n)
  resources : s.resources ≠ 0 → texts[s.counts.length + 2]? =
    some ("  [magenta]Resource collections (not expanded): " ++ toString s.resources ++
      "[/magenta]")
  length : texts.length = s.counts.length + if s.resources = 0 then 2 else 3

/-- The line of a method, with its paddings. -/
theorem countLine_eq (method : String) (n : Nat) :
    "  " ++ padRight 18 (method ++ ":") ++ " " ++ padLeft 4 (toString n) = countLine method n := by
  have hlength : 18 - (method ++ ":").length = 17 - method.length := by
    rw [String.length_append]
    change 18 - (method.length + 1) = _
    omega
  rw [padRight, padLeft, hlength, countLine, blanks, blanks]
  simp only [String.append_assoc]

/-- The line of the resources, with its tags. -/
theorem resourcesLine_eq (n : Nat) :
    "  " ++ tagged "magenta" ("Resource collections (not expanded): " ++ toString n) =
      "  [magenta]Resource collections (not expanded): " ++ toString n ++ "[/magenta]" := by
  calc "  " ++ tagged "magenta" ("Resource collections (not expanded): " ++ toString n)
    _ = "  " ++ "[" ++ "magenta" ++ "]" ++ "Resource collections (not expanded): " ++ toString n
          ++ ("[/" ++ "magenta" ++ "]") := by simp only [tagged, String.append_assoc]
    _ = "  [magenta]Resource collections (not expanded): " ++ toString n ++ "[/magenta]" := rfl

/-- The lines are those of the report. -/
theorem writtenAs_summaryTexts (s : Summary) : s.WrittenAs (summaryTexts s) where
  heading := rfl
  total := rfl
  count i method n hcount := by
    obtain ⟨hi, hentry⟩ := List.getElem?_eq_some_iff.mp hcount
    rw [← countLine_eq]
    simp [summaryTexts, List.getElem?_append_left, hi, hentry]
  resources hne := by
    rw [← resourcesLine_eq]
    simp [summaryTexts, hne]
  length := by
    by_cases hzero : s.resources = 0 <;> simp [summaryTexts, hzero]

/-! ## the report -/

/-- **The report accounts for every route once.**  The summary splits all routes, and is
written in the same lines whatever the table shows: the total, one line for each method, and
the resources.  The table has a row for each route that is shown, by file and line.  What
comes to a console are the lines of the table and then those of the summary. -/
theorem report_accounts (hne : routes ≠ []) :
    ∃ texts, (summary routes).Accounts routes ∧ (summary routes).WrittenAs texts ∧
      ∀ showResources,
        Lists (shown showResources routes)
          (if showResources then routes else routes.filter (!·.isResource)) ∧
        HasRows (columns (hasManyFiles routes) (shown showResources routes))
          ((shown showResources routes).map (cells (hasManyFiles routes))) ∧
        ∀ screen : Console.Screen, lines screen showResources routes = do
          let table ← Console.drawTable screen "Laravel Routes"
            (columns (hasManyFiles routes) (shown showResources routes))
          let said ← texts.mapM fun text => Console.say screen text.toList
          return table ++ Console.blankLine screen.width ++ said.flatten
            ++ Console.blankLine screen.width := by
  refine ⟨summaryTexts (summary routes), accounts_summary routes, writtenAs_summaryTexts _,
    fun showResources => ⟨lists_ordered _, hasRows_columns _ _, fun screen => ?_⟩⟩
  rw [lines, if_neg (by simpa using hne)]

/-- Two files, with a record that is there twice, two records on one line and resources of
both kinds, and what a console of 80 cells shows of them. -/
theorem report_accounts_two_files :
    let list : Route := ⟨4, "GET", "/a", "/a", "", "web.php"⟩
    let first : Route := ⟨2, "POST", "/c", "/c", "", "web.php"⟩
    let second : Route := ⟨2, "GET", "/b", "/b", "", "web.php"⟩
    let photos : Route := ⟨9, "APIRESOURCE", "photos", "/api/photos", "", "api.php"⟩
    let posts : Route := ⟨0, "RESOURCE", "posts", "/posts", "", "web.php"⟩
    let routes := [list, photos, first, posts, second, list]
    routes ≠ [] ∧
    shown true routes = [photos, posts, first, second, list, list] ∧
    shown false routes = [first, second, list, list] ∧
    summary routes = { total := 6, counts := [("GET", 3), ("POST", 1)], resources := 2 } ∧
    (lines { width := 80 } true routes).map (·.map String.ofList) = .ok [
      "                             Laravel Routes                             ",
      "┏━━━━━━━━━┳━━━━━━━━┳━━━━━━━━━━━━━━━━━━━━━━━━━━┳━━━━━━━━━━━━━┳━━━━━━━━━━┓",
      "┃ File    ┃   Line ┃ Method                   ┃ Route Path  ┃ Raw Path ┃",
      "┡━━━━━━━━━╇━━━━━━━━╇━━━━━━━━━━━━━━━━━━━━━━━━━━╇━━━━━━━━━━━━━╇━━━━━━━━━━┩",
      "│ api.php │     10 │ APIRESOURCE (Multiple)   │ /api/photos │ photos   │",
      "│ web.php │      1 │ RESOURCE (Multiple)      │ /posts      │ posts    │",
      "│ web.php │      3 │ POST                     │ /c          │ /c       │",
      "│ web.php │      3 │ GET                      │ /b          │ /b       │",
      "│ web.php │      5 │ GET                      │ /a          │ /a       │",
      "│ web.php │      5 │ GET                      │ /a          │ /a       │",
      "└─────────┴────────┴──────────────────────────┴─────────────┴──────────┘",
      "",
      "Summary:",
      "  Total routes:      6",
      "  GET:                  3",
      "  POST:                 1",
      "  Resource collections (not expanded): 2",
      ""] ∧
    (lines { width := 80 } false routes).map (·.map String.ofList) = .ok [
      "                            Laravel Routes                             ",
      "┏━━━━━━━━━┳━━━━━━━━┳━━━━━━━━━━━━━━━━━━━━━━━━━━┳━━━━━━━━━━━━┳━━━━━━━━━━┓",
      "┃ File    ┃   Line ┃ Method                   ┃ Route Path ┃ Raw Path ┃",
      "┡━━━━━━━━━╇━━━━━━━━╇━━━━━━━━━━━━━━━━━━━━━━━━━━╇━━━━━━━━━━━━╇━━━━━━━━━━┩",
      "│ web.php │      3 │ POST                     │ /c         │ /c       │",
      "│ web.php │      3 │ GET                      │ /b         │ /b       │",
      "│ web.php │      5 │ GET                      │ /a         │ /a       │",
      "│ web.php │      5 │ GET                      │ /a         │ /a       │",
      "└─────────┴────────┴──────────────────────────┴────────────┴──────────┘",
      "",
      "Summary:",
      "  Total routes:      6",
      "  GET:                  3",
      "  POST:                 1",
      "  Resource collections (not expanded): 2",
      ""] ∧
    ∃ texts, (summary routes).Accounts routes ∧ (summary routes).WrittenAs texts ∧
      ∀ showResources,
        Lists (shown showResources routes)
          (if showResources then routes else routes.filter (!·.isResource)) ∧
        HasRows (columns (hasManyFiles routes) (shown showResources routes))
          ((shown showResources routes).map (cells (hasManyFiles routes))) ∧
        ∀ screen : Console.Screen, lines screen showResources routes = do
          let table ← Console.drawTable screen "Laravel Routes"
            (columns (hasManyFiles routes) (shown showResources routes))
          let said ← texts.mapM fun text => Console.say screen text.toList
          return table ++ Console.blankLine screen.width ++ said.flatten
            ++ Console.blankLine screen.width := by
  intro list first second photos posts routes
  have hne : routes ≠ [] := List.cons_ne_nil _ _
  have hshown : shown true routes = [photos, posts, first, second, list, list] := by
    simp +decide [shown, Route.ordered, List.mergeSort, List.MergeSort.Internal.splitInTwo,
      Route.precedes, routes, list, first, second, photos, posts]
  have hshown' : shown false routes = [first, second, list, list] := by
    simp +decide [shown, Route.ordered, List.mergeSort, List.MergeSort.Internal.splitInTwo,
      Route.precedes, Route.isResource, routes, list, first, second, photos, posts]
  have hsummary : summary routes =
      { total := 6, counts := [("GET", 3), ("POST", 1)], resources := 2 } := by
    simp +decide [summary, methods, List.mergeSort, List.MergeSort.Internal.splitInTwo,
      List.eraseDups_cons, Route.isResource, routes, list, first, second, photos, posts]
  have hfiles : hasManyFiles routes = true := by decide +kernel
  refine ⟨hne, hshown, hshown', hsummary, ?_, ?_, report_accounts hne⟩
  · rw [lines, if_neg (by decide), hfiles, hshown, hsummary]
    decide +kernel
  · rw [lines, if_neg (by decide), hfiles, hshown', hsummary]
    decide +kernel

end Report

end RoutePaths
