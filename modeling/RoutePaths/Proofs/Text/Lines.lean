import RoutePaths.Text.Split

/-!
# RoutePaths.Proofs.Text.Lines

Splitting and joining texts:

* `splitOn_append_cons` — a text splits at each separator on its own, so the
  pieces of two texts with a separator between them are those of the one and
  then those of the other; the other laws follow from this equation, also that
  of lines (`lines_append`);
* `splitOn_joinWith` — splitting undoes joining;
* `Line` — a line is a piece of text without a line feed, and any lines but
  none at all are the lines of the text they make up (`lines_textOf`).
-/

namespace RoutePaths.Text

/-! ## splitting -/

@[simp] theorem splitOn_nil (sep : Char) : splitOn sep [] = [[]] := rfl

theorem splitOn_cons_self (sep : Char) (s : List Char) :
    splitOn sep (sep :: s) = [] :: splitOn sep s := by
  rw [splitOn, if_pos rfl]

/-- A character that is no separator goes to the first piece. -/
theorem splitOn_cons_of_ne {sep c : Char} (hc : c ≠ sep) {s piece : List Char}
    {pieces : List (List Char)} (hs : splitOn sep s = piece :: pieces) :
    splitOn sep (c :: s) = (c :: piece) :: pieces := by
  rw [splitOn, if_neg hc, hs]

/-- A split text has a first piece. -/
theorem exists_splitOn_eq_cons (sep : Char) (s : List Char) :
    ∃ piece pieces, splitOn sep s = piece :: pieces :=
  List.exists_cons_of_ne_nil (splitOn_ne_nil sep s)

/-- A separator parts the text: what stands before it and what stands behind
it are split on their own. -/
theorem splitOn_append_cons (sep : Char) (a b : List Char) :
    splitOn sep (a ++ sep :: b) = splitOn sep a ++ splitOn sep b := by
  induction a with
  | nil => simp [splitOn_cons_self]
  | cons c a ih =>
    by_cases hc : c = sep
    · subst hc
      simp only [List.cons_append, splitOn_cons_self, ih]
    · obtain ⟨piece, pieces, hs⟩ := exists_splitOn_eq_cons sep a
      rw [hs, List.cons_append] at ih
      rw [List.cons_append, splitOn_cons_of_ne hc ih, splitOn_cons_of_ne hc hs, List.cons_append]

/-- A text without a separator is one piece. -/
theorem splitOn_eq_singleton {sep : Char} {s : List Char} (h : sep ∉ s) : splitOn sep s = [s] := by
  induction s with
  | nil => rfl
  | cons c s ih =>
    rw [List.mem_cons, not_or] at h
    exact splitOn_cons_of_ne (Ne.symm h.1) (ih h.2)

/-- No piece holds the separator. -/
theorem not_mem_of_mem_splitOn {sep : Char} {s piece : List Char} (h : piece ∈ splitOn sep s) :
    sep ∉ piece := by
  induction s generalizing piece with
  | nil =>
    rw [List.mem_singleton.mp h]
    exact List.not_mem_nil
  | cons c s ih =>
    by_cases hc : c = sep
    · subst hc
      rw [splitOn_cons_self] at h
      rcases List.mem_cons.mp h with rfl | h
      · exact List.not_mem_nil
      · exact ih h
    · obtain ⟨first, pieces, hs⟩ := exists_splitOn_eq_cons sep s
      rw [splitOn_cons_of_ne hc hs] at h
      rw [hs] at ih
      rcases List.mem_cons.mp h with rfl | h
      · rw [List.mem_cons, not_or]
        exact ⟨Ne.symm hc, ih (List.mem_cons_self ..)⟩
      · exact ih (List.mem_cons_of_mem first h)

/-! ## joining -/

theorem joinWith_cons_cons (sep p q : List Char) (ps : List (List Char)) :
    joinWith sep (p :: q :: ps) = p ++ (sep ++ joinWith sep (q :: ps)) := by
  rw [joinWith, List.append_assoc]
  simp

/-- What stands in a joined text stands in the separator or in a piece. -/
theorem mem_of_mem_joinWith {c : Char} {sep : List Char} {ps : List (List Char)}
    (h : c ∈ joinWith sep ps) : c ∈ sep ∨ ∃ p ∈ ps, c ∈ p := by
  induction ps with
  | nil => contradiction
  | cons p ps ih =>
    cases ps with
    | nil => exact .inr ⟨p, List.mem_cons_self .., h⟩
    | cons q ps =>
      rw [joinWith_cons_cons, List.mem_append, List.mem_append] at h
      rcases h with h | h | h
      · exact .inr ⟨p, List.mem_cons_self .., h⟩
      · exact .inl h
      · exact (ih h).imp_right fun ⟨p', hp', hc⟩ => ⟨p', List.mem_cons_of_mem p hp', hc⟩

/-- Splitting undoes joining, if no piece holds the separator and there is a
piece at all: joining nothing gives the empty text, which is one piece. -/
theorem splitOn_joinWith {sep : Char} {ps : List (List Char)} (h : ∀ p ∈ ps, sep ∉ p)
    (hne : ps ≠ []) : splitOn sep (joinWith [sep] ps) = ps := by
  induction ps with
  | nil => exact absurd rfl hne
  | cons p ps ih =>
    have hp : splitOn sep p = [p] := splitOn_eq_singleton (h p (List.mem_cons_self ..))
    cases ps with
    | nil => exact hp
    | cons q ps =>
      have hps := ih (fun r hr => h r (List.mem_cons_of_mem _ hr)) (List.cons_ne_nil q ps)
      rw [joinWith_cons_cons, List.singleton_append, splitOn_append_cons, hp, hps,
        List.singleton_append]

/-- Before the pieces `ps` of a joined text stands nothing, or a text that ends
in the separator. -/
theorem joinWith_append (sep : Char) (front : List (List Char)) {ps : List (List Char)}
    (hne : ps ≠ []) : ∃ a, (a = [] ∨ a.getLast? = some sep) ∧
      joinWith [sep] (front ++ ps) = a ++ joinWith [sep] ps := by
  induction front with
  | nil => exact ⟨[], .inl rfl, rfl⟩
  | cons p front ih =>
    obtain ⟨a, ha, hjoin⟩ := ih
    obtain ⟨q, qs, hq⟩ := List.exists_cons_of_ne_nil (List.append_ne_nil_of_right_ne_nil front hne)
    refine ⟨p ++ sep :: a, .inr ?_, ?_⟩
    · rcases ha with rfl | ha
      · simp
      · simp [List.getLast?_cons, ha]
    · rw [List.cons_append, hq, joinWith_cons_cons, ← hq, hjoin]
      simp

/-- Behind the first piece of a joined text stands nothing, or a text that
begins with the separator. -/
theorem joinWith_cons (sep : Char) (p : List Char) (ps : List (List Char)) :
    ∃ b, (b = [] ∨ b.head? = some sep) ∧ joinWith [sep] (p :: ps) = p ++ b := by
  cases ps with
  | nil => exact ⟨[], .inl rfl, (List.append_nil p).symm⟩
  | cons q ps => exact ⟨sep :: joinWith [sep] (q :: ps), .inr rfl, joinWith_cons_cons [sep] p q ps⟩

/-- A piece reaches from one separator, or the beginning of the text, to the
next, or to its end. -/
theorem exists_append_of_mem_splitOn {sep : Char} {s piece : List Char}
    (h : piece ∈ splitOn sep s) :
    ∃ a b, (a = [] ∨ a.getLast? = some sep) ∧ (b = [] ∨ b.head? = some sep) ∧
      s = a ++ (piece ++ b) := by
  obtain ⟨front, back, hsplit⟩ := List.append_of_mem h
  obtain ⟨a, ha, hfront⟩ := joinWith_append sep front (List.cons_ne_nil piece back)
  obtain ⟨b, hb, hback⟩ := joinWith_cons sep piece back
  refine ⟨a, b, ha, hb, ?_⟩
  rw [← hback, ← hfront, ← hsplit, joinWith_splitOn]

/-! ## lines -/

/-- A line has no line break. -/
theorem noBreak_of_mem_lines {s : String} {line : List Char} (h : line ∈ lines s) : '\n' ∉ line :=
  not_mem_of_mem_splitOn h

/-- The lines of two texts with a line feed between them. -/
theorem lines_append (a b : String) : lines (a ++ "\n" ++ b) = lines a ++ lines b := by
  have hfeed : "\n".toList = ['\n'] := rfl
  rw [lines, String.toList_append, String.toList_append, hfeed, List.append_assoc,
    List.singleton_append, splitOn_append_cons]
  rfl

/-- A line of a text. -/
structure Line where
  chars : List Char
  noBreak : '\n' ∉ chars
  deriving DecidableEq

/-- The text that lines make up. -/
def textOf (ls : List Line) : String := unlines (ls.map Line.chars)

/-- Lines are read back from the text that they make up. -/
theorem lines_textOf {ls : List Line} (hne : ls ≠ []) : lines (textOf ls) = ls.map Line.chars := by
  rw [lines, textOf, unlines, String.toList_ofList]
  apply splitOn_joinWith
  · intro p hp
    obtain ⟨l, -, rfl⟩ := List.mem_map.mp hp
    exact l.noBreak
  · simpa using hne

end RoutePaths.Text
