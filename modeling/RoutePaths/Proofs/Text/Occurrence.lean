import Mathlib.Data.List.Infix

/-!
# RoutePaths.Proofs.Text.Occurrence

Where a word stands in a text:

* a run of characters of one kind ends with the first other character, so it
  can be read off in one way only (`append_cons_inj_of_kind`);
* a character that is not in the word separates: the word stands in front of it
  or behind it (`split_of_append_word`, `not_infix_append_cons`);
* a word whose first letter does not come back in it does not overlap itself, so
  behind a text without the word, its first place is the next one
  (`eq_of_append_word`).
-/

namespace RoutePaths.Text

variable {word front behind rest s t : List Char} {c d : Char}

/-! ## runs -/

/-- A run of characters of one kind ends with the first of another kind. -/
theorem append_cons_inj_of_kind {isKind : Char → Bool} (hfront : ∀ x ∈ front, isKind x)
    (hbehind : ∀ x ∈ behind, isKind x) (hc : isKind c = false) (hd : isKind d = false)
    (h : front ++ c :: s = behind ++ d :: t) : front = behind ∧ c = d ∧ s = t := by
  have hrun : front = behind := by
    have htaken := congrArg (List.takeWhile isKind) h
    rwa [List.takeWhile_append_of_pos hfront, List.takeWhile_append_of_pos hbehind,
      List.takeWhile_cons_of_neg (by simp [hc]), List.takeWhile_cons_of_neg (by simp [hd]),
      List.append_nil, List.append_nil] at htaken
  rw [hrun] at h
  exact ⟨hrun, List.cons.inj (List.append_cancel_left h)⟩

/-! ## separating characters -/

/-- A word stands on one side of a character that is not in it. -/
theorem split_of_append_word (hc : c ∉ word) (h : front ++ (word ++ rest) = s ++ c :: t) :
    (∃ s', s = front ++ (word ++ s') ∧ rest = s' ++ c :: t) ∨
      ∃ t', front = s ++ c :: t' ∧ t = t' ++ (word ++ rest) := by
  rcases List.append_eq_append_iff.mp h with ⟨u, rfl, hu⟩ | ⟨u, rfl, hu⟩
  · left
    rcases List.append_eq_append_iff.mp hu with ⟨s', rfl, hs'⟩ | ⟨v, hword, hv⟩
    · exact ⟨s', rfl, hs'⟩
    · cases v with
      | nil => exact ⟨[], by simp [hword], hv.symm⟩
      | cons d v =>
        obtain ⟨rfl, -⟩ := List.cons.inj hv
        exact absurd (by simp [hword]) hc
  · cases u with
    | nil =>
      left
      cases word with
      | nil => exact ⟨[], by simp, hu.symm⟩
      | cons d word =>
        obtain ⟨rfl, -⟩ := List.cons.inj hu
        exact absurd (List.mem_cons_self ..) hc
    | cons d u =>
      obtain ⟨rfl, ht⟩ := List.cons.inj hu
      exact .inr ⟨u, rfl, ht⟩

/-- A word that stands on neither side of such a character stands nowhere. -/
theorem not_infix_append_cons (hc : c ∉ word) (hs : ¬ word <:+: s) (ht : ¬ word <:+: t) :
    ¬ word <:+: s ++ c :: t := by
  rintro ⟨front, rest, h⟩
  rw [List.append_assoc] at h
  rcases split_of_append_word hc h with ⟨s', hs', -⟩ | ⟨t', -, ht'⟩
  · exact hs ⟨front, s', by rw [hs', List.append_assoc]⟩
  · exact ht ⟨t', rest, by rw [ht', List.append_assoc]⟩

theorem not_infix_cons (hc : c ∉ word) (ht : ¬ word <:+: t) : ¬ word <:+: c :: t :=
  not_infix_append_cons (s := []) hc (fun h => ht (h.trans (List.nil_prefix).isInfix)) ht

/-- What begins with a word begins with it in front of any character that is not
in it. -/
theorem prefix_of_prefix_append_cons (hc : c ∉ word) (h : word <+: s ++ c :: t) : word <+: s := by
  obtain ⟨rest, hrest⟩ := h
  have hword : [] ++ (word ++ rest) = s ++ c :: t := hrest
  rcases split_of_append_word hc hword with ⟨s', hs', -⟩ | ⟨t', hnil, -⟩
  · exact ⟨s', hs'.symm⟩
  · simp at hnil

/-! ## words that do not overlap themselves -/

/-- A place in front of the word is no place of the word, unless the word stands
there as a whole. -/
theorem prefix_of_prefix_append_word (hd : d ∉ word) (hs : s ≠ [])
    (h : d :: word <+: s ++ (d :: word ++ t)) : d :: word <+: s := by
  obtain ⟨c, s, rfl⟩ := List.exists_cons_of_ne_nil hs
  obtain ⟨rfl, hword⟩ := List.cons_prefix_cons.mp h
  exact List.cons_prefix_cons.mpr ⟨rfl, prefix_of_prefix_append_cons hd hword⟩

/-- **The first place of a word** behind a text without it is right there; every
other place is behind the first. -/
theorem eq_of_append_word (hd : d ∉ word) (hfront : ¬ d :: word <:+: front)
    (h : front ++ (d :: word ++ t) = behind ++ (d :: word ++ rest)) :
    (behind = front ∧ rest = t) ∨ ∃ v, t = v ++ (d :: word ++ rest) := by
  rcases List.append_eq_append_iff.mp h with ⟨u, rfl, hu⟩ | ⟨u, rfl, hu⟩
  · by_cases hne : u = []
    · subst hne
      exact .inl ⟨List.append_nil front, (List.append_cancel_left hu).symm⟩
    · obtain ⟨v, rfl⟩ := prefix_of_prefix_append_word hd hne ⟨t, hu⟩
      rw [List.append_assoc] at hu
      exact .inr ⟨v, List.append_cancel_left hu⟩
  · by_cases hne : u = []
    · subst hne
      exact .inl ⟨(List.append_nil behind).symm, List.append_cancel_left hu⟩
    · have hword := prefix_of_prefix_append_word hd hne ⟨rest, hu⟩
      exact absurd (hword.isInfix.trans (List.suffix_append behind u).isInfix) hfront

end RoutePaths.Text
