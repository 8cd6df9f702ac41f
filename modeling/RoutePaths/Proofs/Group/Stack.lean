import RoutePaths.Proofs.Group.Owner

/-!
# RoutePaths.Proofs.Group.Stack

What the stack of a scan looks like after every line.  The stack here has one
scope more than that of `RoutePaths.Group.Scan`: at its bottom lies the scope of
the file itself, which has no prefix and is left when all others are closed
(`closeToBase`).  It makes no difference to a scan (`Scan.runBased_eq_based`).

The depths on a stack are in no order: a line that closes more than it opens
may open a group as well, and puts its scope on deeper ones that should be
closed.  Two things hold instead (`WellStacked`):

* the scope on top is at most as deep as the line;
* a scope that has been deeper than some line since it was opened, and has not
  been closed, lies below one that is less deep.

Scopes carry no mark of the line that opened them.  It is the only line that
found below the scope what lies there, and left the scope on it for all lines
up to now (`OpenSince`).
-/

namespace RoutePaths.Group

/-! ## the scope of the file -/

/-- The scope of the file itself. -/
def Scope.base : Scope := ⟨[], [], 0⟩

/-- The scopes left open at a depth.  The last one stays at every depth. -/
def closeToBase (depth : Int) : List Scope → List Scope
  | [] => []
  | scope :: below =>
    if below ≠ [] ∧ depth < scope.depth then closeToBase depth below else scope :: below

/-- The scope of the file stays under all that is closed. -/
theorem closeToBase_concat_base (depth : Int) (scopes : List Scope) :
    closeToBase depth (scopes ++ [.base]) = closeBelow depth scopes ++ [.base] := by
  induction scopes with
  | nil => rfl
  | cons scope scopes ih =>
    have hbelow : scopes ++ [Scope.base] ≠ [] := by simp
    rw [List.cons_append, closeToBase, closeBelow_cons]
    by_cases h : depth < scope.depth
    · rw [if_pos ⟨hbelow, h⟩, if_pos h, ih]
    · rw [if_neg fun hcloses => h hcloses.2, if_neg h, List.cons_append]

/-- The scope of the file has no path of its own. -/
theorem topPath_concat_base (scopes : List Scope) :
    topPath (scopes ++ [.base]) = topPath scopes := by
  cases scopes <;> rfl

namespace Scan

/-- The state with the scope of the file below all others. -/
def based (scan : Scan) : Scan := ⟨scan.scopes ++ [.base], scan.depth⟩

/-- The state after one more line, on a stack with the scope of the file. -/
def stepBased (forms : List Form) (scan : Scan) (line : List Char) : Scan :=
  let depth := scan.depth + braceBalance line
  ⟨closeToBase depth (scan.opened (literal? forms line) depth), depth⟩

/-- The state after all of the lines, on a stack with the scope of the file. -/
def runBased (forms : List Form) (ls : List (List Char)) : Scan :=
  ls.foldl (stepBased forms) ⟨[.base], 0⟩

variable {forms : List Form}

/-- A scope is opened over the scope of the file. -/
theorem opened_based (scan : Scan) (literal : Option (List Char)) (depth : Int) :
    scan.based.opened literal depth = scan.opened literal depth ++ [.base] := by
  cases literal with
  | none => rfl
  | some literal =>
    rw [opened_some, opened_some, Scope.nested, Scope.nested, based, topPath_concat_base,
      List.cons_append]

/-- A line does the same over the scope of the file. -/
theorem stepBased_based (scan : Scan) (line : List Char) :
    scan.based.stepBased forms line = (scan.step forms line).based := by
  rw [stepBased, opened_based, closeToBase_concat_base]
  rfl

/-- So do all lines. -/
theorem foldl_stepBased_based (scan : Scan) (ls : List (List Char)) :
    ls.foldl (stepBased forms) scan.based = (run forms scan ls).based := by
  induction ls generalizing scan with
  | nil => rfl
  | cons line ls ih => rw [List.foldl_cons, stepBased_based, ih, run_cons]

/-- **The scope of the file** is never closed, and changes nothing above it. -/
theorem runBased_eq_based (ls : List (List Char)) : runBased forms ls = (run forms {} ls).based :=
  foldl_stepBased_based {} ls

/-- The state after the first `n` lines, the scope of the file included. -/
def after (forms : List Form) (ls : List (List Char)) (n : Nat) : Scan :=
  runBased forms (ls.take n)

/-- The depth after a line is the balance of the text up to it. -/
theorem depth_after (ls : List (List Char)) (i : Nat) :
    (after forms ls (i + 1)).depth = depthAt ls i := by
  rw [after, runBased_eq_based, based, run_depth, depthAt]
  exact Int.zero_add _

/-- The stack after some lines: one scope for each opening line on it, over that of the file. -/
theorem scopes_after {ls : List (List Char)} {n : Nat} (hn : n ≤ ls.length) :
    (after forms ls n).scopes = (openingLines forms ls n).map (scopeAt forms ls) ++ [.base] := by
  rw [after, runBased_eq_based, based, scopes_run_take forms hn]

end Scan

/-! ## lines that are on the stack -/

section Lines

variable {forms : List Form} {ls : List (List Char)} {n j : Nat}

/-- No scope closes on the line that opens a group. -/
theorem ownersStep_of_isSome (h : (literalAt? forms ls n).isSome) (js : List Nat) :
    ownersStep forms ls n js = n :: js := by
  simp [ownersStep, h]

/-- **The step**: what is on the stack after a line was there before, or is the
line itself on all that was there. -/
theorem suffix_ownersStep {earlier js : List Nat} (h : j :: earlier <:+ ownersStep forms ls n js) :
    (j = n ∧ earlier = js ∧ (literalAt? forms ls n).isSome) ∨ j :: earlier <:+ js := by
  by_cases hn : (literalAt? forms ls n).isSome
  · rw [ownersStep_of_isSome hn, List.suffix_cons_iff] at h
    rcases h with heq | h
    · exact .inl ⟨(List.cons.inj heq).1, (List.cons.inj heq).2, hn⟩
    · exact .inr h
  · rw [ownersStep, if_neg hn] at h
    exact .inr (h.trans (List.dropWhile_suffix _))

/-- What lies below a line on the stack was the stack before that line, and
nothing has changed since in the line and below it. -/
theorem openingLines_of_suffix {earlier : List Nat}
    (h : j :: earlier <:+ openingLines forms ls n) :
    openingLines forms ls j = earlier ∧ openingLines forms ls (j + 1) = j :: earlier ∧
      ∀ k ≤ n, j < k → j :: earlier <:+ openingLines forms ls k := by
  induction n with
  | zero => simp [openingLines] at h
  | succ n ih =>
    rcases suffix_ownersStep h with ⟨rfl, rfl, hj⟩ | hsuffix
    · refine ⟨rfl, ownersStep_of_isSome hj _, fun k hk hjk => ?_⟩
      rwa [show k = j + 1 by omega]
    · obtain ⟨hbefore, hopened, hstays⟩ := ih hsuffix
      refine ⟨hbefore, hopened, fun k hk hjk => ?_⟩
      rcases Nat.le_succ_iff.mp hk with hk | rfl
      · exact hstays k hk hjk
      · exact h

/-- A line that is deeper than a later line `k` lies below another one that is
at most as deep as `k`. -/
theorem exists_later_of_deeper {later earlier : List Nat} {k : Nat}
    (h : openingLines forms ls n = later ++ j :: earlier) (hk : k < n) (hjk : j ≤ k)
    (hdeeper : depthAt ls k < depthAt ls j) :
    ∃ j' ∈ later, depthAt ls j' ≤ depthAt ls k := by
  have htracks := tracks_openingLines forms ls n
  rw [h] at htracks
  obtain ⟨j', hj', hlater, hdepth⟩ := htracks.covered j (by simp) k hk hjk hdeeper
  have hearlier : ∀ j' ∈ earlier, j' < j :=
    (List.pairwise_cons.mp (List.pairwise_append.mp htracks.descending).2.1).1
  refine ⟨j', ?_, hdepth⟩
  rcases List.mem_append.mp hj' with hj' | hj'
  · exact hj'
  · rcases List.mem_cons.mp hj' with rfl | hj'
    · omega
    · have := hearlier j' hj'
      omega

end Lines

/-! ## scopes that are on the stack -/

open Scan (after)

/-- The scope of a group on the stack, with what lies above it and below it.
Only the scope of the file has nothing below it. -/
structure Stacked (scan : Scan) (above : List Scope) (scope : Scope) (below : List Scope) :
    Prop where
  scopes_eq : scan.scopes = above ++ scope :: below
  below_ne_nil : below ≠ []

/-- Line `j` has put the scope on those below it, and nothing has changed in
these after any line from then on, up to line `i`. -/
structure OpenSince (forms : List Form) (ls : List (List Char)) (scope : Scope)
    (below : List Scope) (j i : Nat) : Prop where
  le : j ≤ i
  literal : literalAt? forms ls j = some scope.literal
  depth : scope.depth = (after forms ls (j + 1)).depth
  before : (after forms ls j).scopes = below
  opened : (after forms ls (j + 1)).scopes = scope :: below
  stays : ∀ k ≤ i, j ≤ k → scope :: below <:+ (after forms ls (k + 1)).scopes

section Scopes

variable {forms : List Form} {ls : List (List Char)} {i j : Nat} {above below : List Scope}
  {scope : Scope}

/-- The literal of an open scope is that of the line that opened it. -/
theorem OpenSince.quoted (h : OpenSince forms ls scope below j i) :
    scope.literal ≠ [] ∧ ∀ c ∈ scope.literal, Text.isQuote c = false := by
  obtain ⟨t, rest, hquoted⟩ := exists_quoted_of_literalAt? h.literal
  obtain ⟨hne, hplain, -⟩ := Text.quoted_eq_some_iff.mp hquoted
  exact ⟨hne, hplain⟩

/-- Of two lines that a scope is open since, neither is the later one. -/
theorem OpenSince.line_le {j' : Nat} (h : OpenSince forms ls scope below j i)
    (h' : OpenSince forms ls scope below j' i) : j' ≤ j := by
  refine Nat.le_of_not_lt fun hlt => ?_
  -- Line `j'` would have found the scope on the stack already.
  have hle := h'.le
  have hstays := h.stays (j' - 1) (by omega) (by omega)
  rw [Nat.sub_add_cancel (by omega), h'.before] at hstays
  have hlength := hstays.length_le
  rw [List.length_cons] at hlength
  omega

/-- A scope has been opened by one line only. -/
theorem OpenSince.unique {j' : Nat} (h : OpenSince forms ls scope below j i)
    (h' : OpenSince forms ls scope below j' i) : j' = j :=
  Nat.le_antisymm (h.line_le h') (h'.line_le h)

namespace Stacked

/-- The scopes of groups are those of lines. -/
theorem exists_openingLines (h : Stacked (after forms ls (i + 1)) above scope below)
    (hi : i < ls.length) :
    ∃ later j earlier, openingLines forms ls (i + 1) = later ++ j :: earlier ∧
      above = later.map (scopeAt forms ls) ∧ scope = scopeAt forms ls j ∧
      below = earlier.map (scopeAt forms ls) ++ [.base] := by
  obtain ⟨heq, hbelow⟩ := h
  rcases List.eq_nil_or_concat below with rfl | ⟨front, last, rfl⟩
  · exact absurd rfl hbelow
  · rw [Scan.scopes_after hi, List.concat_eq_append, ← List.cons_append, ← List.append_assoc] at heq
    obtain ⟨hgroups, hbase⟩ := List.append_inj' heq rfl
    obtain ⟨later, rest, hlines, rfl, hrest⟩ := List.map_eq_append_iff.mp hgroups
    obtain ⟨j, earlier, rfl, rfl, rfl⟩ := List.map_eq_cons_iff.mp hrest
    refine ⟨later, j, earlier, hlines, rfl, rfl, ?_⟩
    rw [List.concat_eq_append, hbase]

/-- **Every group on the stack has been opened by a line**, and has been there
since, and what should have closed on a line from then on is buried. -/
theorem exists_openSince (h : Stacked (after forms ls (i + 1)) above scope below)
    (hi : i < ls.length) :
    ∃ j, OpenSince forms ls scope below j i ∧
      ∀ k ≤ i, j ≤ k → (after forms ls (k + 1)).depth < scope.depth →
        ∃ scope' ∈ above, scope'.depth < scope.depth := by
  obtain ⟨later, j, earlier, hlines, rfl, rfl, rfl⟩ := h.exists_openingLines hi
  obtain ⟨hbefore, hopened, hstays⟩ := openingLines_of_suffix ⟨later, hlines.symm⟩
  obtain ⟨hj, hsome⟩ := (tracks_openingLines forms ls (i + 1)).opening j (by simp [hlines])
  obtain ⟨literal, hliteral⟩ := Option.isSome_iff_exists.mp hsome
  refine ⟨j, ⟨Nat.le_of_lt_succ hj, ?_, ?_, ?_, ?_, ?_⟩, ?_⟩
  · rw [scopeAt, hliteral, Option.getD_some]
  · rw [Scan.depth_after, scopeAt]
  · rw [Scan.scopes_after (by omega), hbefore]
  · rw [Scan.scopes_after (by omega), hopened, List.map_cons, List.cons_append]
  · intro k hk hjk
    obtain ⟨front, hfront⟩ := hstays (k + 1) (by omega) (by omega)
    rw [Scan.scopes_after (by omega), ← hfront]
    exact ⟨front.map (scopeAt forms ls), by simp⟩
  · intro k hk hjk hdeeper
    rw [Scan.depth_after] at hdeeper
    obtain ⟨j', hj', hdepth⟩ := exists_later_of_deeper hlines (Nat.lt_succ_of_le hk) hjk hdeeper
    exact ⟨scopeAt forms ls j', List.mem_map_of_mem hj', Int.lt_of_le_of_lt hdepth hdeeper⟩

/-- The path of a scope is its literal nested in the path under it. -/
theorem path_eq (h : Stacked (after forms ls (i + 1)) above scope below) (hi : i < ls.length) :
    scope.path = UrlPath.nest (topPath below) scope.literal := by
  obtain ⟨later, j, earlier, hlines, -, rfl, rfl⟩ := h.exists_openingLines hi
  have hbefore := (openingLines_of_suffix ⟨later, hlines.symm⟩).1
  rw [topPath_concat_base, ← hbefore, (tracks_openingLines forms ls j).topPath_eq]
  rfl

end Stacked

end Scopes

/-! ## the stack after a line -/

/-- What holds of the stack after line `i`. -/
structure WellStacked (forms : List Form) (ls : List (List Char)) (i : Nat) : Prop where
  /-- The scope of the file is at the bottom. -/
  bottom : (after forms ls (i + 1)).scopes.getLast? = some .base
  /-- The literal of a group is nested in the prefix of the scope below it. -/
  nested : ∀ {above scope below}, Stacked (after forms ls (i + 1)) above scope below →
    scope.path = UrlPath.nest (topPath below) scope.literal
  literal : ∀ {above scope below}, Stacked (after forms ls (i + 1)) above scope below →
    scope.literal ≠ [] ∧ ∀ c ∈ scope.literal, Text.isQuote c = false
  path : ∀ {above scope below}, Stacked (after forms ls (i + 1)) above scope below →
    scope.path ≠ [] ∧ ¬ ['/', '/'] <:+: scope.path
  /-- A group on top of the stack is at most as deep as the line. -/
  top : ∀ {scope below}, Stacked (after forms ls (i + 1)) [] scope below →
    scope.depth ≤ (after forms ls (i + 1)).depth
  opened : ∀ {above scope below}, Stacked (after forms ls (i + 1)) above scope below →
    ∃ j, OpenSince forms ls scope below j i
  /-- A group that should have closed on line `k` lies below one that is less
  deep. -/
  buried : ∀ {above scope below}, Stacked (after forms ls (i + 1)) above scope below →
    ∀ j, OpenSince forms ls scope below j i → ∀ k ≤ i, j ≤ k →
      (after forms ls (k + 1)).depth < scope.depth → ∃ scope' ∈ above, scope'.depth < scope.depth

section WellStacked

variable {forms : List Form} {ls : List (List Char)} {i : Nat}

/-- **The stack after a line is well stacked**, its scopes named after the lines on it. -/
theorem wellStacked (hi : i < ls.length) : WellStacked forms ls i where
  bottom := by rw [Scan.scopes_after hi, List.getLast?_concat]
  nested h := h.path_eq hi
  literal h := by
    obtain ⟨j, hopen, -⟩ := h.exists_openSince hi
    exact hopen.quoted
  path h := by
    obtain ⟨j, hopen, -⟩ := h.exists_openSince hi
    rw [h.path_eq hi]
    exact ⟨UrlPath.nest_ne_nil hopen.quoted.1, UrlPath.single_nest _ _⟩
  top h := by
    obtain ⟨j, hopen, hburied⟩ := h.exists_openSince hi
    refine Int.not_lt.mp fun hdeeper => ?_
    obtain ⟨scope', hscope', -⟩ := hburied i (Nat.le_refl i) hopen.le hdeeper
    contradiction
  opened h := by
    obtain ⟨j, hopen, -⟩ := h.exists_openSince hi
    exact ⟨j, hopen⟩
  buried h j hj := by
    obtain ⟨j', hopen, hburied⟩ := h.exists_openSince hi
    rwa [← hj.unique hopen]

/-- No prefix is in force exactly if no group is open. -/
theorem WellStacked.topPath_eq_nil_iff (h : WellStacked forms ls i) :
    topPath (after forms ls (i + 1)).scopes = [] ↔ (after forms ls (i + 1)).scopes = [.base] := by
  have hbottom := h.bottom
  cases hstack : (after forms ls (i + 1)).scopes with
  | nil =>
    rw [hstack] at hbottom
    contradiction
  | cons scope below =>
    by_cases hbelow : below = []
    · rw [hstack, hbelow, List.getLast?_singleton] at hbottom
      rw [hbelow, Option.some.inj hbottom]
      exact iff_of_true rfl rfl
    · have hgroup : Stacked (after forms ls (i + 1)) [] scope below := ⟨hstack, hbelow⟩
      exact iff_of_false (h.path hgroup).1 fun heq => hbelow (List.cons.inj heq).2

end WellStacked

/-- The prefix of a line is the path on top of the stack after it. -/
theorem getElem?_linePrefixes_after (forms : List Form) {text : String} {i : Nat}
    (hi : i < (Text.lines text).length) :
    (linePrefixes forms text)[i]? =
      some (topPath (after forms (Text.lines text) (i + 1)).scopes) := by
  rw [getElem?_linePrefixes forms hi, after, Scan.runBased_eq_based, Scan.based,
    topPath_concat_base]
  rfl

/-- **The stack of scopes** is well made after every line of every text.  It is
that of the scan, with the scope of the file below; its top gives the line its
prefix; and a line has no prefix exactly if no group is open. -/
theorem stack_after_line (forms : List Form) (text : String) {i : Nat}
    (hi : i < (Text.lines text).length) :
    WellStacked forms (Text.lines text) i ∧
      after forms (Text.lines text) (i + 1) =
        (Scan.run forms {} ((Text.lines text).take (i + 1))).based ∧
      (linePrefixes forms text)[i]? =
        some (topPath (after forms (Text.lines text) (i + 1)).scopes) ∧
      ((linePrefixes forms text)[i]? = some [] ↔
        (after forms (Text.lines text) (i + 1)).scopes = [.base]) := by
  have hstack : WellStacked forms (Text.lines text) i := wellStacked hi
  have hinForce := getElem?_linePrefixes_after forms hi
  refine ⟨hstack, Scan.runBased_eq_based _, hinForce, ?_⟩
  rw [hinForce, Option.some.injEq]
  exact hstack.topPath_eq_nil_iff

/-- A line that closes more braces than are open, and opens a group, puts its
scope on one that is deeper. -/
theorem stack_after_line_buried :
    let text := "Route::prefix('a')->group(f \x7b\x7b\n"
      ++ "\x7d\x7d\x7d Route::prefix('/b')->group(f);"
    1 < (Text.lines text).length ∧
      (after Form.all (Text.lines text) (1 + 1)).scopes =
        [⟨"/b".toList, "a/b".toList, -1⟩, ⟨"a".toList, "a".toList, 2⟩, .base] ∧
      WellStacked Form.all (Text.lines text) 1 ∧
      after Form.all (Text.lines text) (1 + 1) =
        (Scan.run Form.all {} ((Text.lines text).take (1 + 1))).based ∧
      (linePrefixes Form.all text)[1]? =
        some (topPath (after Form.all (Text.lines text) (1 + 1)).scopes) ∧
      ((linePrefixes Form.all text)[1]? = some [] ↔
        (after Form.all (Text.lines text) (1 + 1)).scopes = [.base]) := by
  intro text
  have hi : 1 < (Text.lines text).length := by decide
  have hscopes : (after Form.all (Text.lines text) (1 + 1)).scopes =
      [⟨"/b".toList, "a/b".toList, -1⟩, ⟨"a".toList, "a".toList, 2⟩, .base] := by decide
  exact ⟨hi, hscopes, stack_after_line Form.all text hi⟩

end RoutePaths.Group
