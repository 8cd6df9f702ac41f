import RoutePaths.Proofs.Group.Opening
import RoutePaths.Proofs.UrlPath.Pieces

/-!
# RoutePaths.Proofs.Group.Owner

The prefix of every line, told from the depths alone and without a stack:

1. a group is open on a line if the depth has not been below that of its
   opening line on any line from there on (`OpenAt`);
2. the last group that is open on a line owns it (`owner?`);
3. a line has the prefix of the opening line of its owner, which is the literal
   of the group nested in the prefix of the line before; a line without an
   owner has no prefix (`ownedPrefix`).

A scan gives the same prefixes.  Its stack is no list of open groups, though:
a line that closes more than it opens may open a group too, and then puts a
scope above deeper ones that should have closed.  What keeps those from coming
up again is in `Tracks.covered`: when a scope is missed because another is
above it, that other one is at most as deep as the line that missed it, and
will not close before it.
-/

namespace RoutePaths.Group

/-! ## groups without a stack -/

/-- Line `j` opens a group, and no line from there to line `i` is less deep. -/
def OpenAt (forms : List Form) (ls : List (List Char)) (j i : Nat) : Prop :=
  (literalAt? forms ls j).isSome ∧ ∀ k ≤ i, j ≤ k → depthAt ls j ≤ depthAt ls k

instance (forms : List Form) (ls : List (List Char)) (j i : Nat) :
    Decidable (OpenAt forms ls j i) :=
  inferInstanceAs (Decidable (_ ∧ _))

/-- The opening line of the last group that is open on line `i`. -/
def owner? (forms : List Form) (ls : List (List Char)) (i : Nat) : Option Nat :=
  ((List.range (i + 1)).filter (OpenAt forms ls · i)).max?

variable {forms : List Form} {ls : List (List Char)}

/-- The owner is the latest of the lines whose group is open. -/
theorem owner?_eq_some_iff {i j : Nat} :
    owner? forms ls i = some j ↔
      (j ≤ i ∧ OpenAt forms ls j i) ∧ ∀ j' ≤ i, OpenAt forms ls j' i → j' ≤ j := by
  rw [owner?, List.max?_eq_some_iff]
  simp only [List.mem_filter, List.mem_range, Nat.lt_succ_iff, decide_eq_true_eq, and_imp]

/-- A line without an owner is in no group. -/
theorem owner?_eq_none_iff {i : Nat} :
    owner? forms ls i = none ↔ ∀ j ≤ i, ¬ OpenAt forms ls j i := by
  rw [owner?, List.max?_eq_none_iff, List.filter_eq_nil_iff]
  simp only [List.mem_range, Nat.lt_succ_iff, decide_eq_true_eq]

/-- The prefix of the last of the first `n` lines, by the owners of lines. -/
def ownedPrefix (forms : List Form) (ls : List (List Char)) : Nat → List Char
  | 0 => []
  | i + 1 =>
    match _h : owner? forms ls i with
    | none => []
    | some j => UrlPath.nest (ownedPrefix forms ls j) ((literalAt? forms ls j).getD [])
termination_by n => n
decreasing_by
  have := (owner?_eq_some_iff.mp _h).1.1
  omega

/-- A line has a prefix if a group is open on it. -/
theorem ownedPrefix_ne_nil {i j : Nat} (hj : j ≤ i) (hopen : OpenAt forms ls j i) :
    ownedPrefix forms ls (i + 1) ≠ [] := by
  rw [ownedPrefix]
  split
  · next howner => exact absurd hopen (owner?_eq_none_iff.mp howner j hj)
  · next j' howner =>
    obtain ⟨literal, hliteral⟩ := Option.isSome_iff_exists.mp (owner?_eq_some_iff.mp howner).1.2.1
    obtain ⟨t, rest, hquoted⟩ := exists_quoted_of_literalAt? hliteral
    rw [hliteral]
    exact UrlPath.nest_ne_nil (Text.ne_nil_of_quoted hquoted)

/-! ## the stack in terms of lines -/

/-- The scope that line `j` opens. -/
def scopeAt (forms : List Form) (ls : List (List Char)) (j : Nat) : Scope where
  literal := (literalAt? forms ls j).getD []
  path := UrlPath.nest (ownedPrefix forms ls j) ((literalAt? forms ls j).getD [])
  depth := depthAt ls j

/-- What can be said of the opening lines of the scopes on the stack after the
first `n` lines, last one first. -/
structure Tracks (forms : List Form) (ls : List (List Char)) (n : Nat) (js : List Nat) :
    Prop where
  opening : ∀ j ∈ js, j < n ∧ (literalAt? forms ls j).isSome
  descending : js.Pairwise (· > ·)
  /-- No open group is missing. -/
  complete : ∀ j < n, (literalAt? forms ls j).isSome →
    (∀ k < n, j ≤ k → depthAt ls j ≤ depthAt ls k) → j ∈ js
  /-- Below a group that should have closed on line `k` stands no open group. -/
  covered : ∀ j ∈ js, ∀ k < n, j ≤ k → depthAt ls k < depthAt ls j →
    ∃ j' ∈ js, j < j' ∧ depthAt ls j' ≤ depthAt ls k

theorem Tracks.zero : Tracks forms ls 0 [] where
  opening := by simp
  descending := .nil
  complete := by simp
  covered := by simp

/-- The group on top of the stack is open: what covers it would be above it. -/
theorem Tracks.open_head {n j : Nat} {js : List Nat} (h : Tracks forms ls n (j :: js)) :
    ∀ k < n, j ≤ k → depthAt ls j ≤ depthAt ls k := by
  intro k hk hjk
  refine Int.not_lt.mp fun hlt => ?_
  obtain ⟨j', hj', hlater, -⟩ := h.covered j (List.mem_cons_self ..) k hk hjk hlt
  have hdesc := List.pairwise_cons.mp h.descending
  rcases List.mem_cons.mp hj' with rfl | hj'
  · omega
  · have := hdesc.1 j' hj'
    omega

/-- The group on top of the stack is the owner. -/
theorem Tracks.owner?_eq {i : Nat} {js : List Nat} (h : Tracks forms ls (i + 1) js) :
    owner? forms ls i = js.head? := by
  cases js with
  | nil =>
    rw [List.head?_nil, owner?_eq_none_iff]
    intro j hj hopen
    have := h.complete j (by omega) hopen.1 fun k hk => hopen.2 k (by omega)
    contradiction
  | cons j js =>
    obtain ⟨hj, hsome⟩ := h.opening j (List.mem_cons_self ..)
    rw [List.head?_cons, owner?_eq_some_iff]
    refine ⟨⟨by omega, hsome, fun k hk => h.open_head k (by omega)⟩, ?_⟩
    intro j' hj' hopen
    have hmem := h.complete j' (by omega) hopen.1 fun k hk => hopen.2 k (by omega)
    rcases List.mem_cons.mp hmem with rfl | hmem
    · exact Nat.le_refl _
    · exact Nat.le_of_lt ((List.pairwise_cons.mp h.descending).1 j' hmem)

/-- The prefix in force is the one of the owner's opening line. -/
theorem Tracks.topPath_eq {n : Nat} {js : List Nat} (h : Tracks forms ls n js) :
    topPath (js.map (scopeAt forms ls)) = ownedPrefix forms ls n := by
  cases n with
  | zero =>
    cases js with
    | nil => rw [ownedPrefix]; rfl
    | cons j js => exact absurd (h.opening j (List.mem_cons_self ..)).1 (Nat.not_lt_zero j)
  | succ i =>
    have howner := h.owner?_eq
    rw [ownedPrefix]
    cases js with
    | nil => split <;> simp_all [topPath]
    | cons j js => split <;> simp_all [topPath, scopeAt]

/-! ## one more line -/

/-- The opening lines of the scopes on the stack after line `n`. -/
def ownersStep (forms : List Form) (ls : List (List Char)) (n : Nat) (js : List Nat) : List Nat :=
  (if (literalAt? forms ls n).isSome then n :: js else js).dropWhile
    (depthAt ls n < depthAt ls ·)

/-- What is not dropped itself stays. -/
theorem mem_dropWhile {p : Nat → Bool} {j : Nat} {js : List Nat} (hmem : j ∈ js)
    (hp : p j = false) : j ∈ js.dropWhile p := by
  induction js with
  | nil => contradiction
  | cons j' js ih =>
    rw [List.dropWhile_cons]
    split
    · next hp' =>
      rcases List.mem_cons.mp hmem with rfl | hmem
      · rw [hp] at hp'
        contradiction
      · exact ih hmem
    · exact hmem

section Step

variable {n : Nat} {js : List Nat}

/-- A scope after line `n` was there before or is opened on the line. -/
theorem mem_of_mem_ownersStep {j : Nat} (hj : j ∈ ownersStep forms ls n js) :
    j ∈ js ∨ j = n ∧ (literalAt? forms ls n).isSome := by
  have hmem := List.dropWhile_subset _ hj
  split at hmem
  · next hn =>
    rcases List.mem_cons.mp hmem with rfl | hmem
    · exact .inr ⟨rfl, hn⟩
    · exact .inl hmem
  · exact .inl hmem

/-- A scope that is at most as deep as line `n` stays. -/
theorem mem_ownersStep {j : Nat} (hj : j ∈ js ∨ j = n ∧ (literalAt? forms ls n).isSome)
    (hdepth : depthAt ls j ≤ depthAt ls n) : j ∈ ownersStep forms ls n js := by
  apply mem_dropWhile
  · rcases hj with hj | ⟨rfl, hn⟩
    · split
      · exact List.mem_cons_of_mem _ hj
      · exact hj
    · rw [if_pos hn]
      exact List.mem_cons_self ..
  · simpa using hdepth

/-- The new line comes after all before it. -/
theorem Tracks.descending_ownersStep (h : Tracks forms ls n js) :
    (ownersStep forms ls n js).Pairwise (· > ·) := by
  apply List.Pairwise.sublist (List.dropWhile_sublist _)
  split
  · exact List.pairwise_cons.mpr ⟨fun j hj => (h.opening j hj).1, h.descending⟩
  · exact h.descending

/-- **The step**: what covers a scope that line `k` missed is still there, or
the scope that is now on top is at most as deep as `k` and covers it. -/
theorem Tracks.step (h : Tracks forms ls n js) :
    Tracks forms ls (n + 1) (ownersStep forms ls n js) where
  opening := by
    intro j hj
    rcases mem_of_mem_ownersStep hj with hj | ⟨rfl, hn⟩
    · obtain ⟨hlt, hsome⟩ := h.opening j hj
      exact ⟨by omega, hsome⟩
    · exact ⟨by omega, hn⟩
  descending := h.descending_ownersStep
  complete := by
    intro j hj hsome hopen
    refine mem_ownersStep ?_ (hopen n (by omega) (by omega))
    rcases Nat.lt_succ_iff_lt_or_eq.mp hj with hj | rfl
    · exact .inl (h.complete j hj hsome fun k hk => hopen k (by omega))
    · exact .inr ⟨rfl, hsome⟩
  covered := by
    intro j hj k hk hjk hlt
    obtain ⟨top, rest, hstack⟩ := List.exists_cons_of_ne_nil (List.ne_nil_of_mem hj)
    have htop : depthAt ls top ≤ depthAt ls n := by
      have hhead := List.head?_dropWhile_not (depthAt ls n < depthAt ls ·)
        (if (literalAt? forms ls n).isSome then n :: js else js)
      rw [← ownersStep, hstack] at hhead
      simpa using hhead
    by_cases hk' : depthAt ls top ≤ depthAt ls k
    · -- The top itself covers `j`, which is deeper and therefore another scope.
      refine ⟨top, by simp [hstack], ?_, hk'⟩
      have hdesc := h.descending_ownersStep
      rw [hstack] at hj hdesc
      rcases List.mem_cons.mp hj with rfl | hj
      · omega
      · exact (List.pairwise_cons.mp hdesc).1 j hj
    · -- Line `k` is less deep than the top and hence not line `n`.
      have hkn : k < n := by
        rcases Nat.lt_succ_iff_lt_or_eq.mp hk with hk | rfl
        · exact hk
        · omega
      have hjs : j ∈ js := by
        rcases mem_of_mem_ownersStep hj with hj | ⟨rfl, -⟩
        · exact hj
        · omega
      obtain ⟨j', hj', hlater, hdepth⟩ := h.covered j hjs k hkn hjk hlt
      exact ⟨j', mem_ownersStep (.inl hj') (by omega), hlater, hdepth⟩

end Step

/-! ## the scan -/

/-- The opening lines of the scopes on the stack after the first `n` lines,
last one first. -/
def openingLines (forms : List Form) (ls : List (List Char)) : Nat → List Nat
  | 0 => []
  | n + 1 => ownersStep forms ls n (openingLines forms ls n)

/-- The lines on the stack are those whose groups are open. -/
theorem tracks_openingLines (forms : List Form) (ls : List (List Char)) (n : Nat) :
    Tracks forms ls n (openingLines forms ls n) := by
  induction n with
  | zero => exact .zero
  | succ n ih => exact ih.step

/-- The stack of a scan, in terms of lines. -/
theorem scopes_run_take (forms : List Form) {ls : List (List Char)} {n : Nat}
    (hn : n ≤ ls.length) :
    (Scan.run forms {} (ls.take n)).scopes =
      (openingLines forms ls n).map (scopeAt forms ls) := by
  induction n with
  | zero => rfl
  | succ n ih =>
    have hscopes := ih (by omega)
    have hopened : (Scan.run forms {} (ls.take n)).opened (literalAt? forms ls n) (depthAt ls n) =
        (if (literalAt? forms ls n).isSome then n :: openingLines forms ls n
          else openingLines forms ls n).map (scopeAt forms ls) := by
      cases hn' : literalAt? forms ls n with
      | none => exact hscopes
      | some literal =>
        have htop := (tracks_openingLines forms ls n).topPath_eq
        rw [Scan.opened_some, hscopes, Scope.nested, htop]
        simp [scopeAt, hn']
    rw [Scan.scopes_run_take_succ _ (by omega), Int.zero_add, hopened]
    exact List.dropWhile_map

/-- The prefix in force after the first `n` lines. -/
theorem path_run_take (forms : List Form) {ls : List (List Char)} {n : Nat} (hn : n ≤ ls.length) :
    (Scan.run forms {} (ls.take n)).path = ownedPrefix forms ls n := by
  rw [Scan.path, scopes_run_take forms hn, (tracks_openingLines forms ls n).topPath_eq]

/-- **Scanning finds the owners**: the prefixes of a scan are those that the
depths give without a stack. -/
theorem linePrefixes_eq_ownedPrefix (forms : List Form) (text : String) :
    linePrefixes forms text =
      (List.range (Text.lines text).length).map fun i =>
        ownedPrefix forms (Text.lines text) (i + 1) := by
  rw [linePrefixes_eq_map]
  apply List.map_congr_left
  intro i hi
  exact path_run_take forms (List.mem_range.mp hi)

/-- Braces that do not match: the third line closes both groups and opens another, which
stays inside them. -/
theorem linePrefixes_eq_ownedPrefix_buried :
    let text := "Route::prefix('a')->group(f\x7b\nRoute::prefix('b')->group(f\x7b\x7b\n" ++
      "\x7d\x7d\x7d Route::prefix('c')->group(f\x7b\nRoute::get('/x', f);\n\x7d"
    (List.range 5).map (owner? Form.all (Text.lines text)) =
        [some 0, some 1, some 2, some 2, none] ∧
      linePrefixes Form.all text =
        ["a".toList, "a/b".toList, "a/b/c".toList, "a/b/c".toList, []] := by
  intro text
  refine ⟨by decide +kernel, (linePrefixes_eq_ownedPrefix Form.all text).trans ?_⟩
  decide +kernel

end RoutePaths.Group
