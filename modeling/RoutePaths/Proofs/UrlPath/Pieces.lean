import RoutePaths.Proofs.Text.Lines
import RoutePaths.UrlPath.Basic

/-!
# RoutePaths.Proofs.UrlPath.Pieces

What a path means is the list of its non-empty pieces: slashes at the ends and
runs of slashes count for nothing.  Every operation on paths is described by
what it does to the pieces:

* `collapse` and `strip` keep them;
* `nest` puts those of the parent before those of the child, also if one of
  them has no pieces; of a parent without runs of slashes it keeps the text as
  well (`prefix_nest`);
* `build` is *the* normal path of the pieces of all its segments
  (`build_eq_join_pieces`): normal paths (`IsNormal`) are told apart by their
  pieces alone.
-/

namespace RoutePaths.UrlPath

open Text

/-! ## pieces -/

@[simp] theorem pieces_nil : pieces [] = [] := rfl

/-- **Pieces part at a slash.**  All that follows about pieces rests on this
equation. -/
@[simp] theorem pieces_append_slash (a b : List Char) :
    pieces (a ++ '/' :: b) = pieces a ++ pieces b := by
  rw [pieces, splitOn_append_cons, List.filter_append]
  rfl

@[simp] theorem pieces_cons_slash (s : List Char) : pieces ('/' :: s) = pieces s :=
  pieces_append_slash [] s

@[simp] theorem pieces_append_single_slash (s : List Char) : pieces (s ++ ['/']) = pieces s := by
  rw [pieces_append_slash, pieces_nil, List.append_nil]

/-- Texts joined by slashes have the pieces of all of them. -/
theorem pieces_joinWith (ps : List (List Char)) :
    pieces (joinWith ['/'] ps) = ps.flatMap pieces := by
  induction ps with
  | nil => rfl
  | cons p ps ih =>
    cases ps with
    | nil => simp [joinWith]
    | cons q ps =>
      rw [joinWith_cons_cons, List.singleton_append, pieces_append_slash, ih]
      rfl

/-- Pieces hold nothing but what stands in the path. -/
theorem mem_of_mem_pieces {c : Char} {piece path : List Char} (h : piece ∈ pieces path)
    (hc : c ∈ piece) : c ∈ path := by
  obtain ⟨a, b, -, -, rfl⟩ := exists_append_of_mem_splitOn (List.mem_filter.mp h).1
  simp [hc]

/-! ## what keeps the pieces -/

/-- A slash before another slash adds no piece, whatever stands before the two:
so the collapsed text may stand behind any other. -/
theorem pieces_append_collapse (a s : List Char) : pieces (a ++ collapse s) = pieces (a ++ s) := by
  induction s generalizing a with
  | nil => rfl
  | cons c rest ih =>
    rw [collapse]
    split
    · next h =>
      obtain ⟨rest', rfl⟩ := List.head?_eq_some_iff.mp h.2
      rw [ih, h.1]
      simp only [pieces_append_slash, pieces_cons_slash]
    · simpa using ih (a ++ [c])

@[simp] theorem pieces_collapse (s : List Char) : pieces (collapse s) = pieces s :=
  pieces_append_collapse [] s

/-- Slashes in front belong to no piece. -/
theorem pieces_dropWhile_slash (s : List Char) :
    pieces (s.dropWhile (· = '/')) = pieces s := by
  induction s with
  | nil => rfl
  | cons c rest ih =>
    by_cases hc : c = '/'
    · subst hc
      simpa using ih
    · simp [hc]

/-- The slashes at the end of a text, seen from its end. -/
theorem pieces_reverse_dropWhile_slash (s : List Char) :
    pieces (s.dropWhile (· = '/')).reverse = pieces s.reverse := by
  induction s with
  | nil => rfl
  | cons c rest ih =>
    by_cases hc : c = '/'
    · subst hc
      simpa using ih
    · simp [hc]

@[simp] theorem pieces_strip (s : List Char) : pieces (strip s) = pieces s := by
  rw [strip, pieces_reverse_dropWhile_slash, List.reverse_reverse, pieces_dropWhile_slash]

/-! ## nested prefixes -/

/-- The pieces of the parent, then those of the child. -/
@[simp] theorem pieces_nest (parent child : List Char) :
    pieces (nest parent child) = pieces parent ++ pieces child := by
  rw [nest]
  split
  · next h => simp [h]
  · simp

/-- Nesting literal in literal puts their pieces in a row. -/
theorem pieces_foldl_nest (parent : List Char) (literals : List (List Char)) :
    pieces (literals.foldl nest parent) = pieces parent ++ literals.flatMap pieces := by
  induction literals generalizing parent with
  | nil => simp
  | cons literal literals ih => simp [ih]

/-! ## normal paths -/

/-- A normal path begins with a slash, has no slash next to another, and ends
in a slash only if it is nothing else. -/
structure IsNormal (path : List Char) : Prop where
  rooted : path.head? = some '/'
  single : ¬ ['/', '/'] <:+: path
  bare : path.getLast? = some '/' → path = ['/']

@[simp] theorem head?_collapse (s : List Char) : (collapse s).head? = s.head? := by
  induction s with
  | nil => rfl
  | cons c rest ih =>
    rw [collapse]
    split
    · next h => rw [ih, h.2, h.1]; rfl
    · rfl

@[simp] theorem getLast?_collapse (s : List Char) : (collapse s).getLast? = s.getLast? := by
  induction s with
  | nil => rfl
  | cons c rest ih =>
    rw [collapse]
    split
    · next h =>
      obtain ⟨rest', rfl⟩ := List.head?_eq_some_iff.mp h.2
      rw [ih, List.getLast?_cons_cons]
    · rw [List.getLast?_cons, List.getLast?_cons, ih]

/-- Collapsing leaves something of a text that is not empty. -/
theorem collapse_ne_nil {s : List Char} (h : s ≠ []) : collapse s ≠ [] := by
  intro hnil
  have hhead := head?_collapse s
  rw [hnil, List.head?_nil] at hhead
  exact h (List.head?_eq_none_iff.mp hhead.symm)

/-- A literal that says anything, if only a slash, makes a prefix. -/
theorem nest_ne_nil {parent child : List Char} (h : child ≠ []) : nest parent child ≠ [] := by
  rw [nest]
  split
  · exact collapse_ne_nil h
  · exact collapse_ne_nil (by simp)

/-- Collapsed text has no two slashes side by side. -/
theorem single_collapse (s : List Char) : ¬ ['/', '/'] <:+: collapse s := by
  induction s with
  | nil => simp [collapse]
  | cons c rest ih =>
    rw [collapse]
    split
    · exact ih
    · next h =>
      rw [List.infix_cons_iff]
      rintro (hstart | hinner)
      · rw [List.cons_prefix_cons] at hstart
        obtain ⟨rfl, t, ht⟩ := hstart
        have hhead : rest.head? = some '/' := by rw [← head?_collapse, ← ht]; rfl
        exact h ⟨rfl, hhead⟩
      · exact ih hinner

/-- Without runs of slashes there is nothing to collapse. -/
theorem collapse_eq_self {s : List Char} (h : ¬ ['/', '/'] <:+: s) : collapse s = s := by
  induction s with
  | nil => rfl
  | cons c rest ih =>
    rw [collapse, if_neg, ih fun hinner => h (List.infix_cons hinner)]
    rintro ⟨rfl, hhead⟩
    obtain ⟨rest', rfl⟩ := List.head?_eq_some_iff.mp hhead
    exact h ⟨[], rest', rfl⟩

/-- Of two slashes in a row the first is left out. -/
theorem collapse_cons_cons (c d : Char) (rest : List Char) :
    collapse (c :: d :: rest) =
      if c = '/' ∧ d = '/' then collapse (d :: rest) else c :: collapse (d :: rest) := by
  conv => lhs; rw [collapse]
  simp only [List.head?_cons, Option.some.injEq]

/-- Of a run of slashes the last one is kept, so what follows does not touch
what stands there collapsed. -/
theorem collapse_prefix_append (a s : List Char) : collapse a <+: collapse (a ++ s) := by
  induction a with
  | nil => exact List.nil_prefix
  | cons c rest ih =>
    cases rest with
    | nil =>
      have hsingle : collapse [c] = [c] := by simp [collapse]
      obtain ⟨t, ht⟩ := List.head?_eq_some_iff.mp (head?_collapse ([c] ++ s))
      rw [hsingle, ht]
      exact ⟨t, rfl⟩
    | cons d rest =>
      rw [List.cons_append, List.cons_append, collapse_cons_cons, collapse_cons_cons]
      split
      · exact ih
      · exact List.cons_prefix_cons.mpr ⟨rfl, ih⟩

/-- A nested path has no two slashes side by side. -/
theorem single_nest (parent child : List Char) : ¬ ['/', '/'] <:+: nest parent child := by
  rw [nest]
  split <;> exact single_collapse _

/-- A prefix goes on from the one around it. -/
theorem prefix_nest {parent : List Char} (h : ¬ ['/', '/'] <:+: parent) (child : List Char) :
    parent <+: nest parent child := by
  rw [nest]
  split
  · next hnil =>
    rw [hnil]
    exact List.nil_prefix
  · have hgoes := collapse_prefix_append parent ('/' :: child)
    rwa [collapse_eq_self h] at hgoes

/-- An empty piece shows at one end of a text or between two slashes. -/
theorem nil_not_mem_splitOn {s : List Char} (hne : s ≠ []) (hhead : s.head? ≠ some '/')
    (hsingle : ¬ ['/', '/'] <:+: s) (hlast : s.getLast? ≠ some '/') : [] ∉ splitOn '/' s := by
  intro hmem
  obtain ⟨a, b, ha, hb, rfl⟩ := exists_append_of_mem_splitOn hmem
  rw [List.nil_append] at hne hhead hsingle hlast
  rcases ha with rfl | ha
  · rcases hb with rfl | hb
    · exact hne rfl
    · exact hhead hb
  · rcases hb with rfl | hb
    · exact hlast (by rwa [List.append_nil])
    · obtain ⟨a', rfl⟩ := List.getLast?_eq_some_iff.mp ha
      obtain ⟨b', rfl⟩ := List.head?_eq_some_iff.mp hb
      exact hsingle ⟨a', b', by simp⟩

/-- A normal path is its pieces, each behind a slash. -/
theorem IsNormal.eq_join_pieces {path : List Char} (h : IsNormal path) :
    path = '/' :: joinWith ['/'] (pieces path) := by
  obtain ⟨rest, rfl⟩ := List.head?_eq_some_iff.mp h.rooted
  rw [pieces_cons_slash]
  by_cases hrest : rest = []
  · subst hrest
    rfl
  · have hhead : rest.head? ≠ some '/' := by
      intro hhead
      obtain ⟨rest', rfl⟩ := List.head?_eq_some_iff.mp hhead
      exact h.single ⟨[], rest', rfl⟩
    have hlast : rest.getLast? ≠ some '/' := by
      intro hlast
      have := h.bare (by rw [List.getLast?_cons, hlast]; rfl)
      exact hrest (List.cons.inj this).2
    have hfull := nil_not_mem_splitOn hrest hhead (fun hin => h.single (List.infix_cons hin)) hlast
    have hpieces : pieces rest = splitOn '/' rest := by
      rw [pieces, List.filter_eq_self]
      intro p hp
      have hp' : p ≠ [] := fun he => hfull (he ▸ hp)
      simpa using hp'
    rw [hpieces, joinWith_splitOn]

/-! ## absolute paths -/

/-- A stripped segment does not end in a slash. -/
theorem getLast?_strip (segment : List Char) : (strip segment).getLast? ≠ some '/' := by
  rw [strip, List.getLast?_reverse]
  intro h
  have := List.head?_dropWhile_not (· = '/') (segment.dropWhile (· = '/')).reverse
  simp [h] at this

/-- Joined pieces end as the last of them does. -/
theorem getLast?_joinWith {ps : List (List Char)}
    (h : ∀ p ∈ ps, p ≠ [] ∧ p.getLast? ≠ some '/') :
    (joinWith ['/'] ps).getLast? ≠ some '/' := by
  rcases List.eq_nil_or_concat ps with rfl | ⟨front, p, rfl⟩
  · simp [joinWith]
  · obtain ⟨hp, hlast⟩ := h p (by simp)
    obtain ⟨a, -, hjoin⟩ := joinWith_append '/' front (List.cons_ne_nil p [])
    rw [List.concat_eq_append, hjoin, joinWith, List.getLast?_append]
    cases hp' : p.getLast? with
    | none => exact absurd (List.getLast?_eq_none_iff.mp hp') hp
    | some c => rwa [hp'] at hlast

/-- The paths that `build` makes are normal: each segment that is left has been
stripped, so only a path without segments ends in a slash. -/
theorem isNormal_build (segments : List (List Char)) : IsNormal (build segments) := by
  constructor
  · rw [build, head?_collapse]
    rfl
  · exact single_collapse _
  · rw [build, getLast?_collapse]
    generalize hbody : joinWith ['/'] ((segments.map strip).filter (· ≠ [])) = body
    have hlast : body.getLast? ≠ some '/' := by
      rw [← hbody]
      apply getLast?_joinWith
      intro p hp
      obtain ⟨hmem, hne⟩ := List.mem_filter.mp hp
      obtain ⟨segment, -, rfl⟩ := List.mem_map.mp hmem
      exact ⟨by simpa using hne, getLast?_strip segment⟩
    rcases List.eq_nil_or_concat body with rfl | ⟨front, c, rfl⟩
    · intro _
      rfl
    · rw [List.concat_eq_append, List.getLast?_concat] at hlast
      rw [List.concat_eq_append, ← List.cons_append, List.getLast?_concat]
      intro h
      exact absurd h hlast

/-- Stripping and leaving out what is empty loses no piece. -/
theorem pieces_build (segments : List (List Char)) :
    pieces (build segments) = segments.flatMap pieces := by
  rw [build, pieces_collapse, pieces_cons_slash, pieces_joinWith]
  induction segments with
  | nil => rfl
  | cons segment segments ih =>
    rw [List.map_cons, List.filter_cons, List.flatMap_cons, ← pieces_strip segment, ← ih]
    split
    · rfl
    · next h =>
      have hnil : strip segment = [] := by simpa using h
      rw [hnil]
      rfl

/-- **The path of a list of segments**: their pieces, each behind a slash, or a
single slash if there is none. -/
theorem build_eq_join_pieces (segments : List (List Char)) :
    build segments = '/' :: joinWith ['/'] (segments.flatMap pieces) := by
  rw [← pieces_build]
  exact (isNormal_build segments).eq_join_pieces

/-- **Paths are told apart by their pieces.** -/
theorem build_eq_iff {segments segments' : List (List Char)} :
    build segments = build segments' ↔ segments.flatMap pieces = segments'.flatMap pieces := by
  constructor
  · intro h
    rw [← pieces_build, h, pieces_build]
  · intro h
    rw [build_eq_join_pieces, h, ← build_eq_join_pieces]

/-- Before the same segments, segments of different pieces make different paths. -/
theorem build_cons_eq_iff (a b : List Char) (segments : List (List Char)) :
    build (a :: segments) = build (b :: segments) ↔ pieces a = pieces b := by
  rw [build_eq_iff, List.flatMap_cons, List.flatMap_cons, List.append_cancel_right_eq]

end RoutePaths.UrlPath
