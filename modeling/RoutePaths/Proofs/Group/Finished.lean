import RoutePaths.Proofs.Group.Owner
import RoutePaths.Proofs.Text.Lines

/-!
# RoutePaths.Proofs.Group.Finished

Does a finished block leave a trace in the lines after it?  A block is finished
if it never closes a brace that it has not opened, and leaves none open
(`Finished`).  A scan tells the end of a group from the depth after its opening
line, so it is a matter of the opening lines alone:

* a group whose opening line leaves a brace open is deeper than the block, and
  closes with it: the scan is back in its state (`run_of_finished`);
* a group whose opening line leaves none open, be it that the group ends on the
  line, that it has no braces or that its brace stands on the next line, is as
  deep as the block and stays open behind it.

So finished blocks without groups of the second kind, and no others, can be
put anywhere without a trace (`unaffected_iff_deeper`).
-/

namespace RoutePaths.Group

open Text (Line)

/-! ## finished blocks -/

/-- Lines that, read character by character, have never closed more braces than
they have opened, and have closed all of them in the end. -/
structure Finished (ls : List (List Char)) : Prop where
  neverBelow : ∀ n ≤ ls.flatten.length, 0 ≤ braceBalance (ls.flatten.take n)
  settled : braceBalance ls.flatten = 0

instance (ls : List (List Char)) : Decidable (Finished ls) :=
  decidable_of_iff
    ((∀ n ≤ ls.flatten.length, 0 ≤ braceBalance (ls.flatten.take n)) ∧
      braceBalance ls.flatten = 0)
    ⟨fun h => ⟨h.1, h.2⟩, fun h => ⟨h.neverBelow, h.settled⟩⟩

/-- Every line that opens a group leaves a brace open that it has opened in the
block. -/
def OpensDeeper (forms : List Form) (ls : List (List Char)) : Prop :=
  ∀ j, (literalAt? forms ls j).isSome → 0 < depthAt ls j

variable {forms : List Form} {ls : List (List Char)}

theorem Finished.depthAt_nonneg (h : Finished ls) (i : Nat) : 0 ≤ depthAt ls i := by
  have hsplit : ls.flatten = (ls.take (i + 1)).flatten ++ (ls.drop (i + 1)).flatten := by
    rw [← List.flatten_append, List.take_append_drop]
  have hle : (ls.take (i + 1)).flatten.length ≤ ls.flatten.length := by
    rw [hsplit, List.length_append]
    omega
  have htaken := h.neverBelow (ls.take (i + 1)).flatten.length hle
  rwa [hsplit, List.take_left] at htaken

/-- A scope that is opened lies, like those above it, above what was there. -/
theorem exists_opened_eq_append {scan : Scan} {above below : List Scope} {level depth : Int}
    {literal : Option (List Char)} (hscopes : scan.scopes = above ++ below)
    (habove : ∀ scope ∈ above, level < scope.depth) (hdeep : literal.isSome → level < depth) :
    ∃ above', scan.opened literal depth = above' ++ below ∧
      ∀ scope ∈ above', level < scope.depth := by
  cases literal with
  | none => exact ⟨above, hscopes, habove⟩
  | some literal =>
    refine ⟨.nested scan.scopes literal depth :: above, ?_, ?_⟩
    · rw [Scan.opened_some, hscopes, List.cons_append]
    · intro scope hscope
      rcases List.mem_cons.mp hscope with rfl | hscope
      · exact hdeep rfl
      · exact habove scope hscope

/-- What the lines of a block put on the stack is deeper than the block, and
what was there before is still under it. -/
theorem exists_scopes_run_eq_append {scan : Scan} (hfinished : Finished ls)
    (hdeeper : OpensDeeper forms ls) (hholds : Holds scan.depth scan.scopes) {n : Nat}
    (hn : n ≤ ls.length) :
    ∃ above, (Scan.run forms scan (ls.take n)).scopes = above ++ scan.scopes ∧
      ∀ scope ∈ above, scan.depth < scope.depth := by
  induction n with
  | zero => exact ⟨[], rfl, by simp⟩
  | succ n ih =>
    obtain ⟨above, hscopes, habove⟩ := ih (by omega)
    have hdeep : (literalAt? forms ls n).isSome → scan.depth < scan.depth + depthAt ls n := by
      intro hliteral
      have := hdeeper n hliteral
      omega
    obtain ⟨above', hopened, habove'⟩ := exists_opened_eq_append hscopes habove hdeep
    have hstill : Holds (scan.depth + depthAt ls n) scan.scopes :=
      hholds.mono (Int.le_add_of_nonneg_right (hfinished.depthAt_nonneg n))
    refine ⟨closeBelow (scan.depth + depthAt ls n) above', ?_, ?_⟩
    · rw [Scan.scopes_run_take_succ _ (by omega), hopened]
      exact closeBelow_append hstill above'
    · intro scope hscope
      exact habove' scope (List.dropWhile_subset _ hscope)

/-- **A finished block whose groups are deeper leaves the scan as it was.** -/
theorem run_of_finished {scan : Scan} (hfinished : Finished ls) (hdeeper : OpensDeeper forms ls)
    (hholds : Holds scan.depth scan.scopes) : Scan.run forms scan ls = scan := by
  obtain ⟨above, hscopes, habove⟩ :=
    exists_scopes_run_eq_append hfinished hdeeper hholds (Nat.le_refl ls.length)
  rw [List.take_length] at hscopes
  have hdepth : (Scan.run forms scan ls).depth = scan.depth := by
    rw [Scan.run_depth, hfinished.settled, Int.add_zero]
  have hholds' : Holds (Scan.run forms scan ls).depth (Scan.run forms scan ls).scopes :=
    Scan.holds_run hholds ls
  have hnil : above = [] := by
    cases above with
    | nil => rfl
    | cons scope above =>
      rw [hscopes, hdepth, List.cons_append, holds_cons] at hholds'
      have hdeep := habove scope (List.mem_cons_self ..)
      omega
  rw [hnil, List.nil_append] at hscopes
  calc Scan.run forms scan ls
      = ⟨(Scan.run forms scan ls).scopes, (Scan.run forms scan ls).depth⟩ := rfl
    _ = ⟨scan.scopes, scan.depth⟩ := by rw [hscopes, hdepth]
    _ = scan := rfl

/-! ## groups that stay open -/

/-- An empty line behind others changes no depth. -/
theorem depthAt_append_nil (ls : List (List Char)) (i : Nat) :
    depthAt (ls ++ [[]]) i = depthAt ls i := by
  rw [depthAt, depthAt, List.take_append, List.flatten_append]
  cases i + 1 - ls.length with
  | zero => simp
  | succ n => simp

/-- A group that is no deeper than its block is still open behind it. -/
theorem ownedPrefix_append_nil {j : Nat} (hfinished : Finished ls)
    (hliteral : (literalAt? forms ls j).isSome) (hlevel : depthAt ls j ≤ 0) :
    ownedPrefix forms (ls ++ [[]]) (ls.length + 1) ≠ [] := by
  have hj := lt_length_of_literalAt? hliteral
  refine ownedPrefix_ne_nil (Nat.le_of_lt hj) ⟨?_, ?_⟩
  · rwa [literalAt?, List.getElem?_append_left hj]
  · intro k _ _
    rw [depthAt_append_nil, depthAt_append_nil]
    exact Int.le_trans hlevel (hfinished.depthAt_nonneg k)

theorem path_step_nil (forms : List Form) : (Scan.step forms {} []).path = [] := by
  rw [Scan.step_eq, literal?_nil]
  rfl

/-- **Finished blocks**: the lines behind a finished block have the prefixes
that they have without it, whatever stands before and behind, exactly if every
line of it that opens a group leaves a brace open. -/
theorem unaffected_iff_deeper (forms : List Form) {block : List Line}
    (hfinished : Finished (block.map Line.chars)) :
    (∀ front back : List Line, ∀ i < back.length,
      (linePrefixes forms (Text.textOf (front ++ block ++ back)))[
          front.length + block.length + i]? =
        (linePrefixes forms (Text.textOf (front ++ back)))[front.length + i]?) ↔
      OpensDeeper forms (block.map Line.chars) := by
  constructor
  · intro h j hliteral
    refine Int.lt_of_not_ge fun hlevel => ?_
    -- The group shows on an empty line behind the block, with nothing in front of it.
    let blank : Line := ⟨[], List.not_mem_nil⟩
    have hlt : 0 < [blank].length := Nat.one_pos
    have hbehind := getElem?_linePrefixes_append forms block hlt
    have halone := getElem?_linePrefixes_append forms [] hlt
    have hsame := h [] [blank] 0 hlt
    simp only [List.nil_append, List.length_nil, Nat.zero_add] at hsame halone
    rw [hbehind, halone] at hsame
    have hpath : (Scan.run forms {} (block.map Line.chars ++ [[]])).path = [] := by
      rw [Scan.run_append]
      exact (Option.some.inj hsame).trans (path_step_nil forms)
    have howned := ownedPrefix_append_nil hfinished hliteral hlevel
    have htake := path_run_take forms (Nat.le_refl (block.map Line.chars ++ [[]]).length)
    rw [List.take_length, hpath, List.length_append] at htake
    exact howned htake.symm
  · intro hdeeper front back i hi
    rw [← List.length_append, getElem?_linePrefixes_append forms (front ++ block) hi,
      getElem?_linePrefixes_append forms front hi, List.map_append, Scan.run_append,
      run_of_finished hfinished hdeeper (Scan.holds_run (holds_nil _) _)]

/-- A group in two lines. -/
theorem unaffected_iff_deeper_braces :
    let block : List Line := [⟨"Route::prefix('a')->group(f\x7b".toList, by decide⟩,
      ⟨"\x7d);".toList, by decide⟩]
    Finished (block.map Line.chars) ∧
      ((∀ front back : List Line, ∀ i < back.length,
        (linePrefixes Form.all (Text.textOf (front ++ block ++ back)))[
            front.length + block.length + i]? =
          (linePrefixes Form.all (Text.textOf (front ++ back)))[front.length + i]?) ↔
        OpensDeeper Form.all (block.map Line.chars)) := by
  intro block
  have hfinished : Finished (block.map Line.chars) := by decide
  exact ⟨hfinished, unaffected_iff_deeper Form.all hfinished⟩

/-- A group whose routes are in another file has no braces, so it is a finished
block, but its prefix goes on to the line behind it. -/
theorem prefix_behind_group_without_braces :
    let group : Line := ⟨"Route::prefix('admin')->group(base_path('routes/admin.php'));".toList,
      by decide⟩
    let route : Line := ⟨"Route::get('/x', fn () => 1);".toList, by decide⟩
    Finished [group.chars] ∧
      (linePrefixes Form.all (Text.textOf ([] ++ [group] ++ [route])))[1]? =
        some "admin".toList ∧
      (linePrefixes Form.all (Text.textOf ([] ++ [route])))[0]? = some [] := by
  decide

end RoutePaths.Group
