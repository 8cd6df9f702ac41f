import RoutePaths.Proofs.UrlPath.Pieces

/-!
# RoutePaths.Proofs.UrlPath.Compose

How the operations on paths compose.

1. `collapse` absorbs a `collapse` of either part of its argument
   (`collapse_collapse_append`, `collapse_append_collapse`), because what it
   does to a slash depends on the next character only, and it keeps the first
   character of every text.
2. Hence it does not matter whether the two arguments of `nest` are collapsed,
   and `nest` is associative (`nest_assoc`).  The two empty prefixes are not
   alike: an empty parent leaves the child without a slash in front of it, an
   empty child leaves the parent with a slash behind it.
3. Absolute paths are told apart by their pieces alone (`build_eq_iff`), so a
   segment may be cut in two, or several be built first, wherever the pieces
   stay the same (`paths_compose`).
-/

namespace RoutePaths.UrlPath

open Text

/-! ## collapsing in parts -/

/-- What is collapsed can be exchanged behind a character, if it begins alike. -/
theorem collapse_cons_congr {c : Char} {s t : List Char} (hhead : s.head? = t.head?)
    (hcollapse : collapse s = collapse t) : collapse (c :: s) = collapse (c :: t) := by
  rw [collapse, collapse, hhead, hcollapse]

/-- A text may be collapsed before another one is put in front of it. -/
theorem collapse_append_collapse (a s : List Char) :
    collapse (a ++ collapse s) = collapse (a ++ s) := by
  induction a with
  | nil => exact collapse_eq_self (single_collapse s)
  | cons c a ih =>
    apply collapse_cons_congr _ ih
    rw [List.head?_append, List.head?_append, head?_collapse]

/-- A text may be collapsed before another one is put behind it. -/
theorem collapse_collapse_append (s a : List Char) :
    collapse (collapse s ++ a) = collapse (s ++ a) := by
  induction s with
  | nil => rfl
  | cons c rest ih =>
    have hhead : (collapse rest ++ a).head? = (rest ++ a).head? := by
      rw [List.head?_append, List.head?_append, head?_collapse]
    rw [collapse]
    split
    · next h =>
      obtain ⟨rest', rfl⟩ := List.head?_eq_some_iff.mp h.2
      rw [ih, h.1, List.cons_append, List.cons_append, List.cons_append, collapse_cons_cons,
        if_pos ⟨rfl, rfl⟩]
    · exact collapse_cons_congr hhead ih

/-! ## nesting in parts -/

theorem nest_nil_left (child : List Char) : nest [] child = collapse child := rfl

/-- Under a parent a child stands behind a slash. -/
theorem nest_of_ne_nil {parent : List Char} (h : parent ≠ []) (child : List Char) :
    nest parent child = collapse (parent ++ '/' :: child) :=
  if_neg h

/-- Nesting does not tell a parent from the collapsed one. -/
theorem nest_collapse_left (parent child : List Char) :
    nest (collapse parent) child = nest parent child := by
  by_cases h : parent = []
  · rw [h]
    rfl
  · rw [nest_of_ne_nil (collapse_ne_nil h), nest_of_ne_nil h, collapse_collapse_append]

/-- Nor a child. -/
theorem nest_collapse_right (parent child : List Char) :
    nest parent (collapse child) = nest parent child := by
  by_cases h : parent = []
  · rw [h, nest_nil_left, nest_nil_left]
    exact collapse_append_collapse [] child
  · rw [nest_of_ne_nil h, nest_of_ne_nil h, ← List.singleton_append, ← List.append_assoc,
      collapse_append_collapse, List.append_assoc, List.singleton_append]

/-- A child without anything leaves a slash behind its parent, and one more slash
in front of the next child says nothing. -/
theorem nest_append_slash {parent : List Char} (h : parent ≠ []) (child : List Char) :
    nest (parent ++ ['/']) child = nest parent child := by
  have hslashes : collapse ('/' :: '/' :: child) = collapse ('/' :: child) := by
    rw [collapse_cons_cons, if_pos ⟨rfl, rfl⟩]
  have hne : parent ++ ['/'] ≠ [] := by simp
  rw [nest_of_ne_nil hne, nest_of_ne_nil h, List.append_assoc, List.singleton_append,
    ← collapse_append_collapse, hslashes, collapse_append_collapse]

/-- **Prefixes nest associatively**, with groups that have no prefix, or nothing
but slashes, in any place. -/
theorem nest_assoc (a b c : List Char) : nest (nest a b) c = nest a (nest b c) := by
  by_cases ha : a = []
  · subst ha
    calc nest (collapse b) c = nest b c := nest_collapse_left b c
      _ = collapse (nest b c) := (collapse_eq_self (single_nest b c)).symm
  rw [nest_of_ne_nil ha, nest_collapse_left]
  by_cases hb : b = []
  · subst hb
    calc nest (a ++ ['/']) c = nest a c := nest_append_slash ha c
      _ = nest a (collapse c) := (nest_collapse_right a c).symm
  · have hab : a ++ '/' :: b ≠ [] := by simp
    calc nest (a ++ '/' :: b) c = collapse (a ++ '/' :: (b ++ '/' :: c)) := by
          rw [nest_of_ne_nil hab, List.append_assoc, List.cons_append]
      _ = nest a (b ++ '/' :: c) := (nest_of_ne_nil ha _).symm
      _ = nest a (nest b c) := by rw [nest_of_ne_nil hb, nest_collapse_right]

/-- An empty prefix counts for nothing only on the outside. -/
example : nest [] "a".toList = "a".toList ∧ nest "a".toList [] = "a/".toList := by decide

/-! ## absolute paths -/

/-- **Path algebra**: the path of some segments is made of their pieces; a path
is the path of itself; the prefix of a group inside another may stand for the
two prefixes, one behind the other; and prefixes nest associatively. -/
theorem paths_compose (segments : List (List Char)) :
    build segments = '/' :: joinWith ['/'] (segments.flatMap pieces) ∧
      build [build segments] = build segments ∧
      (∀ (before after : List (List Char)) (parent child : List Char),
        build (before ++ nest parent child :: after) =
          build (before ++ parent :: child :: after)) ∧
      ∀ a b c : List Char, nest (nest a b) c = nest a (nest b c) := by
  refine ⟨build_eq_join_pieces segments, ?_, ?_, nest_assoc⟩
  · simp [build_eq_iff, pieces_build]
  · intro before after parent child
    simp [build_eq_iff]

end RoutePaths.UrlPath
