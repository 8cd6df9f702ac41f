import RoutePaths.Proofs.Group.Opening
import RoutePaths.Proofs.Text.Lines
import RoutePaths.Proofs.UrlPath.Pieces

/-!
# RoutePaths.Proofs.Group.Sibling

Is it the same to close a group and to open the next one on one line as on two?
A scan takes the new group in before it closes any other, and closes by what is
left of the braces of the whole line.  So a group that is closed in front of the
new one gives its prefix to the new one, and stays open behind it:

* `Alike` stacks show the same prefix wherever they are closed, and no lines
  tell them apart (`Scan.Alike.run`);
* the two ways of writing are alike if the closing line, taken alone, keeps the
  prefix in force, and else some group and some lines behind it tell them apart
  (`joined_iff_kept`).
-/

namespace RoutePaths.Group

open Text (Line)

variable {forms : List Form} {scopes scopes' : List Scope}

/-! ## prefixes along a stack -/

/-- The path in force has no two slashes side by side. -/
theorem Nested.single (h : Nested scopes) : ¬ ['/', '/'] <:+: topPath scopes := by
  cases scopes with
  | nil => simp [topPath]
  | cons scope scopes =>
    rw [topPath, h.1]
    exact UrlPath.single_nest _ _

/-- The prefix of a scope goes on from those of the scopes below it. -/
theorem Nested.topPath_prefix_topPath {below : List Scope} (h : Nested scopes)
    (hsuffix : below <:+ scopes) : topPath below <+: topPath scopes := by
  induction scopes with
  | nil => rw [List.suffix_nil.mp hsuffix]
  | cons scope scopes ih =>
    rcases List.suffix_cons_iff.mp hsuffix with rfl | hsuffix
    · exact List.prefix_rfl
    · have hgrows : topPath scopes <+: scope.path := h.1 ▸ UrlPath.prefix_nest h.2.single _
      exact (ih h.2 hsuffix).trans hgrows

/-! ## stacks that cannot be told apart -/

/-- Stacks that show the same prefix wherever they are closed. -/
def Alike (scopes scopes' : List Scope) : Prop :=
  ∀ depth, topPath (closeBelow depth scopes) = topPath (closeBelow depth scopes')

/-- Closing down to two depths is closing down to the smaller one. -/
theorem closeBelow_closeBelow (d e : Int) (scopes : List Scope) :
    closeBelow d (closeBelow e scopes) = closeBelow (min d e) scopes := by
  induction scopes with
  | nil => rfl
  | cons scope scopes ih =>
    rw [closeBelow_cons, closeBelow_cons]
    by_cases he : e < scope.depth
    · rw [if_pos he, if_pos (by omega), ih]
    · rw [if_neg he, closeBelow_cons]
      by_cases hd : d < scope.depth
      · rw [if_pos hd, if_pos (by omega), Int.min_eq_left (by omega)]
      · rw [if_neg hd, if_neg (by omega)]

/-- Every stack holds at some depth. -/
theorem exists_holds (scopes : List Scope) : ∃ depth, Holds depth scopes := by
  cases scopes with
  | nil => exact ⟨0, holds_nil 0⟩
  | cons scope scopes => exact ⟨scope.depth, by simp⟩

/-- Stacks that are alike have one path. -/
theorem Alike.topPath_eq (h : Alike scopes scopes') : topPath scopes = topPath scopes' := by
  obtain ⟨d, hd⟩ := exists_holds scopes
  obtain ⟨d', hd'⟩ := exists_holds scopes'
  have hmax := h (max d d')
  rwa [closeBelow_of_holds (hd.mono (Int.le_max_left ..)),
    closeBelow_of_holds (hd'.mono (Int.le_max_right ..))] at hmax

/-- Stacks that are alike stay alike under scopes of one path and depth. -/
theorem Alike.cons (h : Alike scopes scopes') {scope scope' : Scope}
    (hpath : scope.path = scope'.path) (hdepth : scope.depth = scope'.depth) :
    Alike (scope :: scopes) (scope' :: scopes') := by
  intro depth
  rw [closeBelow_cons, closeBelow_cons, ← hdepth]
  split
  · exact h depth
  · exact hpath

/-- Stacks that are alike are closed alike. -/
theorem Alike.closeBelow (h : Alike scopes scopes') (depth : Int) :
    Alike (closeBelow depth scopes) (closeBelow depth scopes') := by
  intro d
  rw [closeBelow_closeBelow, closeBelow_closeBelow]
  exact h _

/-- Closing some scopes cannot be told from leaving them open, if it keeps the
prefix: prefixes grow from scope to scope, so all of these scopes have the same
one. -/
theorem alike_closeBelow (hnested : Nested scopes) {depth : Int}
    (hkept : topPath (closeBelow depth scopes) = topPath scopes) :
    Alike scopes (closeBelow depth scopes) := by
  intro d
  rw [closeBelow_closeBelow]
  by_cases hd : d ≤ depth
  · rw [Int.min_eq_left hd]
  · rw [Int.min_eq_right (by omega)]
    have hinner : Group.closeBelow depth scopes <:+ Group.closeBelow d scopes := by
      rw [show depth = min depth d by omega, ← closeBelow_closeBelow]
      exact List.dropWhile_suffix _
    have houter : Group.closeBelow d scopes <:+ scopes := List.dropWhile_suffix _
    have hlow := (hnested.of_suffix houter).topPath_prefix_topPath hinner
    have hhigh := hnested.topPath_prefix_topPath houter
    rw [hkept] at hlow ⊢
    exact hhigh.eq_of_length_le hlow.length_le

namespace Scan

/-- States that no further line can tell apart. -/
structure Alike (scan scan' : Scan) : Prop where
  scopes : Group.Alike scan.scopes scan'.scopes
  depth : scan.depth = scan'.depth

variable {scan scan' : Scan}

theorem Alike.path_eq (h : Alike scan scan') : scan.path = scan'.path := h.scopes.topPath_eq

/-- A line keeps scans alike. -/
theorem Alike.step (h : Alike scan scan') (line : List Char) :
    Alike (scan.step forms line) (scan'.step forms line) := by
  have hopened : Group.Alike (scan.opened (literal? forms line) (scan.depth + braceBalance line))
      (scan'.opened (literal? forms line) (scan.depth + braceBalance line)) := by
    cases literal? forms line with
    | none => exact h.scopes
    | some literal => exact h.scopes.cons (congrArg (UrlPath.nest · literal) h.path_eq) rfl
  refine ⟨?_, ?_⟩
  · rw [step_eq, step_eq, ← h.depth]
    exact hopened.closeBelow _
  · rw [step_depth, step_depth, h.depth]

theorem Alike.run (h : Alike scan scan') (ls : List (List Char)) :
    Alike (run forms scan ls) (run forms scan' ls) := by
  induction ls generalizing scan scan' with
  | nil => exact h
  | cons line ls ih => exact ih (h.step line)

end Scan

/-! ## closing lines and opening lines -/

/-- Closing braces and parentheses, semicolons and blanks. -/
def IsClosing (line : List Char) : Prop :=
  ∀ c ∈ line, c = '\x7d' ∨ c = ')' ∨ c = ';' ∨ Text.isBlank c

instance (line : List Char) : Decidable (IsClosing line) := List.decidableBAll _ line

section Lines

variable {closing opening literal : List Char}

/-- A closing line has no character that can begin a group call. -/
theorem IsClosing.isInert (h : IsClosing closing) : ∀ c ∈ closing, IsInert c := by
  intro c hc
  rcases h c hc with rfl | rfl | rfl | hblank
  · constructor <;> decide
  · constructor <;> decide
  · constructor <;> decide
  · exact isInert_of_isBlank hblank

/-- A closing line opens no group. -/
theorem IsClosing.literal?_eq_none (h : IsClosing closing) : literal? forms closing = none := by
  rw [← List.append_nil closing, literal?_append_of_inert forms h.isInert, literal?_nil]

/-- A closing line opens no more braces than it closes. -/
theorem IsClosing.braceBalance_nonpos (h : IsClosing closing) : braceBalance closing ≤ 0 := by
  have hopens : closing.count '\x7b' = 0 := by
    rw [List.count_eq_zero]
    intro hmem
    have := h _ hmem
    revert this
    decide
  rw [braceBalance, hopens]
  omega

/-- A closing line only closes scopes. -/
theorem Scan.step_closing_line (h : IsClosing closing) (scan : Scan) :
    scan.step forms closing =
      ⟨closeBelow (scan.depth + braceBalance closing) scan.scopes,
        scan.depth + braceBalance closing⟩ := by
  rw [step_eq, h.literal?_eq_none, opened_none]

/-- The group that a line opens is open after it. -/
theorem Scan.step_of_literal? (h : literal? forms opening = some literal) (scan : Scan) :
    scan.step forms opening =
      ⟨.nested scan.scopes literal (scan.depth + braceBalance opening) :: scan.scopes,
        scan.depth + braceBalance opening⟩ := by
  rw [step_eq, h, opened_some, closeBelow_cons, if_neg]
  exact Int.lt_irrefl _

/-- **Joined lines** are alike if the closing one keeps the prefix in force. -/
theorem Scan.alike_joined {scan : Scan} (hnested : Nested scan.scopes)
    (hclosing : IsClosing closing) (hopens : literal? forms opening = some literal)
    (hkept : (scan.step forms closing).path = scan.path) :
    Alike (scan.step forms (closing ++ opening))
      ((scan.step forms closing).step forms opening) := by
  have hjoined : literal? forms (closing ++ opening) = some literal := by
    rw [literal?_append_of_inert forms hclosing.isInert, hopens]
  have hdepth : scan.depth + braceBalance (closing ++ opening) =
      scan.depth + braceBalance closing + braceBalance opening := by
    rw [braceBalance_append]
    omega
  rw [step_closing_line hclosing] at hkept ⊢
  rw [step_of_literal? hjoined, step_of_literal? hopens, hdepth]
  exact ⟨(alike_closeBelow hnested hkept).cons (congrArg (UrlPath.nest · literal) hkept.symm) rfl,
    rfl⟩

/-- A group whose opening line leaves `n` braces open. -/
def deepOpening (n : Nat) : List Char :=
  List.replicate n '\x7b' ++ "Route::prefix('x')->group(f".toList

/-- However many braces a deep opening opens, it opens one group. -/
theorem literal?_deepOpening (n : Nat) : literal? Form.all (deepOpening n) = some ['x'] := by
  have hinert : ∀ c ∈ List.replicate n '\x7b', IsInert c := by
    intro c hc
    rw [List.eq_of_mem_replicate hc]
    constructor <;> decide
  rw [deepOpening, literal?_append_of_inert _ hinert]
  decide

/-- The braces that a deep opening leaves open. -/
theorem braceBalance_deepOpening (n : Nat) : braceBalance (deepOpening n) = n := by
  have hcall : braceBalance "Route::prefix('x')->group(f".toList = 0 := by decide
  rw [deepOpening, braceBalance_append, hcall]
  simp [braceBalance, List.count_replicate]

/-- A brace behind an opening line closes its group, and those below it that the
line has left too deep. -/
theorem Scan.path_step_brace (hopens : literal? forms opening = some literal) (scan : Scan) :
    ((scan.step forms opening).step forms ['\x7d']).path =
      topPath (closeBelow (scan.depth + braceBalance opening - 1) scan.scopes) := by
  have hbrace : IsClosing ['\x7d'] := by decide
  have hbalance : braceBalance ['\x7d'] = -1 := by decide
  rw [step_of_literal? hopens, step_closing_line hbrace, hbalance, path, closeBelow_cons, if_pos]
  · rfl
  · change scan.depth + braceBalance opening + -1 < scan.depth + braceBalance opening
    omega

/-- A group that is one brace deeper than the joined lines begin, and a brace that
closes it, show what the closing line has left open. -/
theorem Scan.kept_of_deepOpening {scan : Scan} (hholds : Holds scan.depth scan.scopes)
    (hclosing : IsClosing closing) {n : Nat} (hn : (n : Int) = 1 - braceBalance closing)
    (hsame : ((scan.step Form.all (closing ++ deepOpening n)).step Form.all ['\x7d']).path =
      (((scan.step Form.all closing).step Form.all (deepOpening n)).step Form.all ['\x7d']).path) :
    (scan.step Form.all closing).path = scan.path := by
  have hopens := literal?_deepOpening n
  have hjoined : literal? Form.all (closing ++ deepOpening n) = some ['x'] := by
    rw [literal?_append_of_inert _ hclosing.isInert, hopens]
  have hbefore : scan.depth + braceBalance (closing ++ deepOpening n) - 1 = scan.depth := by
    rw [braceBalance_append, braceBalance_deepOpening]
    omega
  have hbehind : (scan.step Form.all closing).depth + braceBalance (deepOpening n) - 1 =
      scan.depth := by
    rw [step_depth, braceBalance_deepOpening]
    omega
  have hstill : Holds scan.depth (scan.step Form.all closing).scopes :=
    (holds_step scan closing).mono (by have := hclosing.braceBalance_nonpos; rw [step_depth]; omega)
  rw [path_step_brace hjoined, path_step_brace hopens, hbefore, hbehind, closeBelow_of_holds hholds,
    closeBelow_of_holds hstill] at hsame
  exact hsame.symm

end Lines

/-! ## two ways of writing -/

/-- A line with another one written behind it on the same line. -/
def joined (a b : Line) : Line where
  chars := a.chars ++ b.chars
  noBreak := by simp [a.noBreak, b.noBreak]

/-- The prefixes from joined lines on. -/
theorem getElem?_linePrefixes_joined (forms : List Form) (front : List Line) (a b : Line)
    {back : List Line} {i : Nat} (hi : i ≤ back.length) :
    (linePrefixes forms (Text.textOf (front ++ joined a b :: back)))[front.length + i]? =
      some (Scan.run forms ((Scan.run forms {} (front.map (·.chars))).step forms
        (a.chars ++ b.chars)) ((back.map (·.chars)).take i)).path := by
  rw [getElem?_linePrefixes_append forms front (by rw [List.length_cons]; omega)]
  rfl

/-- The prefixes from the second of two lines on. -/
theorem getElem?_linePrefixes_split (forms : List Form) (front : List Line) (a b : Line)
    {back : List Line} {i : Nat} (hi : i ≤ back.length) :
    (linePrefixes forms (Text.textOf (front ++ a :: b :: back)))[front.length + 1 + i]? =
      some (Scan.run forms (((Scan.run forms {} (front.map (·.chars))).step forms a.chars).step
        forms b.chars) ((back.map (·.chars)).take i)).path := by
  rw [Nat.add_assoc, Nat.add_comm 1,
    getElem?_linePrefixes_append forms front (by simp only [List.length_cons]; omega)]
  rfl

/-- **Closing a group and opening the next on one line** is the same as on two
lines, for every group that is opened and everything behind it, exactly if the
closing line, taken alone, keeps the prefix in force. -/
theorem joined_iff_kept (front : List Line) {closing : Line} (hclosing : IsClosing closing.chars) :
    (∀ opening : Line, (literal? Form.all opening.chars).isSome →
      ∀ back : List Line, ∀ i ≤ back.length,
        (linePrefixes Form.all (Text.textOf (front ++ joined closing opening :: back)))[
            front.length + i]? =
          (linePrefixes Form.all (Text.textOf (front ++ closing :: opening :: back)))[
            front.length + 1 + i]?) ↔
      ((Scan.run Form.all {} (front.map (·.chars))).step Form.all closing.chars).path =
        (Scan.run Form.all {} (front.map (·.chars))).path := by
  generalize hscan : Scan.run Form.all {} (front.map (·.chars)) = scan
  have hholds : Holds scan.depth scan.scopes := hscan ▸ Scan.holds_run (holds_nil _) _
  have hinit : Nested ({} : Scan).scopes := trivial
  have hnested : Nested scan.scopes := hscan ▸ Scan.nested_run hinit _
  constructor
  · intro h
    obtain ⟨n, hn⟩ := Int.eq_ofNat_of_zero_le
      (show 0 ≤ 1 - braceBalance closing.chars by have := hclosing.braceBalance_nonpos; omega)
    let opening : Line := ⟨deepOpening n, by simp [deepOpening, List.mem_replicate]⟩
    let brace : Line := ⟨['\x7d'], by decide⟩
    have hsame := h opening (by rw [literal?_deepOpening]; rfl) [brace] 1 (Nat.le_refl 1)
    rw [getElem?_linePrefixes_joined _ _ _ _ (Nat.le_refl 1),
      getElem?_linePrefixes_split _ _ _ _ (Nat.le_refl 1), hscan] at hsame
    exact Scan.kept_of_deepOpening hholds hclosing hn.symm (Option.some.inj hsame)
  · intro hkept opening hopens back i hi
    obtain ⟨literal, hliteral⟩ := Option.isSome_iff_exists.mp hopens
    rw [getElem?_linePrefixes_joined _ _ _ _ hi, getElem?_linePrefixes_split _ _ _ _ hi, hscan]
    exact congrArg some ((Scan.alike_joined hnested hclosing hliteral hkept).run _).path_eq

/-- Inside a group, a line that closes a block of another kind. -/
theorem joined_iff_kept_inside :
    let front : List Line := [⟨"Route::prefix('a')->group(f\x7b".toList, by decide⟩,
      ⟨"if (true) \x7b".toList, by decide⟩]
    let closing : Line := ⟨" \x7d ;".toList, by decide⟩
    IsClosing closing.chars ∧
      ((∀ opening : Line, (literal? Form.all opening.chars).isSome →
        ∀ back : List Line, ∀ i ≤ back.length,
          (linePrefixes Form.all (Text.textOf (front ++ joined closing opening :: back)))[
              front.length + i]? =
            (linePrefixes Form.all (Text.textOf (front ++ closing :: opening :: back)))[
              front.length + 1 + i]?) ↔
        ((Scan.run Form.all {} (front.map (·.chars))).step Form.all closing.chars).path =
          (Scan.run Form.all {} (front.map (·.chars))).path) := by
  intro front closing
  have hclosing : IsClosing closing.chars := by decide
  exact ⟨hclosing, joined_iff_kept front hclosing⟩

/-- The line that closes a group gives its prefix to the group that it opens. -/
theorem prefix_of_group_behind_group :
    let front : Line := ⟨"Route::prefix('a')->group(function () \x7b".toList, by decide⟩
    let closing : Line := ⟨"\x7d);".toList, by decide⟩
    let opening : Line := ⟨" Route::prefix('b')->group(function () \x7b".toList, by decide⟩
    IsClosing closing.chars ∧ (literal? Form.all opening.chars).isSome ∧
      (linePrefixes Form.all (Text.textOf ([front] ++ joined closing opening :: [])))[1 + 0]? =
        some "a/b".toList ∧
      (linePrefixes Form.all (Text.textOf ([front] ++ closing :: opening :: [])))[1 + 1 + 0]? =
        some "b".toList := by
  decide +kernel

end RoutePaths.Group
