import Mathlib.Data.List.DropRight
import Mathlib.Data.List.Forall2
import RoutePaths.Text.Match

/-!
# RoutePaths.Proofs.Text.Match

What the recognisers of a text accept.  Each of them reads from the left and
leaves the rest, so whatever it answers stands in the text:

* `expect`, `expectFolded` and `quoted` are told by the form of the text alone
  (`expect_eq_some_iff`, `expectFolded_eq_some_iff`, `quoted_eq_some_iff`);
* the rest is a suffix of the text, also after blanks;
* a search finds its answer at some suffix (`exists_suffix_of_search`,
  `exists_suffix_of_ahead`), and at the leftmost one (`search_eq_some_iff`).
-/

namespace RoutePaths.Text

variable {word s literal rest : List Char}

/-! ## blanks -/

theorem trimStart_suffix (s : List Char) : trimStart s <:+ s := List.dropWhile_suffix _

theorem trimEnd_prefix_self (s : List Char) : trimEnd s <+: s := by
  rw [← List.reverse_suffix, trimEnd, List.reverse_reverse]
  exact List.dropWhile_suffix _

/-- In front of what is left without leading blanks there are blanks only. -/
theorem exists_blanks_trimStart (s : List Char) :
    ∃ blanks, (∀ c ∈ blanks, isBlank c) ∧ s = blanks ++ trimStart s :=
  ⟨s.takeWhile isBlank, fun _ hc => List.all_eq_true.mp List.all_takeWhile _ hc,
    List.takeWhile_append_dropWhile.symm⟩

/-- Blanks in front are left out. -/
theorem trimStart_append_of_isBlank {blanks : List Char} (h : ∀ c ∈ blanks, isBlank c)
    (s : List Char) : trimStart (blanks ++ s) = trimStart s :=
  List.dropWhile_append_of_pos h

/-- Nothing is left out in front of a character that is no blank. -/
theorem trimStart_cons_of_not_isBlank {c : Char} (hc : isBlank c = false) (s : List Char) :
    trimStart (c :: s) = c :: s := by
  simp [trimStart, hc]

/-- What is left has no leading blanks. -/
theorem trimStart_trimStart (s : List Char) : trimStart (trimStart s) = trimStart s := by
  rw [trimStart, trimStart, List.dropWhile_idempotent]

/-- Behind what is left without trailing blanks there are blanks only. -/
theorem exists_blanks_trimEnd (s : List Char) :
    ∃ blanks, (∀ c ∈ blanks, isBlank c) ∧ s = trimEnd s ++ blanks := by
  obtain ⟨blanks, hblanks, hs⟩ := exists_blanks_trimStart s.reverse
  refine ⟨blanks.reverse, fun c hc => hblanks c (List.mem_reverse.mp hc), ?_⟩
  rw [trimEnd, ← List.reverse_append, ← trimStart, ← hs, List.reverse_reverse]

/-- Blanks behind a text do not reach back over anything else. -/
theorem exists_of_append_blanks {front blanks : List Char} {c : Char}
    (hblanks : ∀ b ∈ blanks, isBlank b) (hc : isBlank c = false)
    (h : s ++ blanks = front ++ c :: rest) : ∃ rest', s = front ++ c :: rest' := by
  rcases List.append_eq_append_iff.mp h with ⟨t, -, hblank⟩ | ⟨t, rfl, ht⟩
  · have hmem := hblanks c (by rw [hblank]; simp)
    rw [hc] at hmem
    contradiction
  · cases t with
    | nil =>
      have hmem := hblanks c (by rw [← List.nil_append blanks, ← ht]; simp)
      rw [hc] at hmem
      contradiction
    | cons d t =>
      obtain ⟨rfl, -⟩ := List.cons.inj ht
      exact ⟨t, rfl⟩

theorem trim_infix_self (s : List Char) : trim s <:+: s :=
  (trimEnd_prefix_self _).isInfix.trans (trimStart_suffix s).isInfix

/-- What a text without its trailing blanks begins with, it begins with anyway,
if not with less. -/
theorem exists_trimEnd_append (front s : List Char) :
    ∃ front', front' ⊆ front ∧ trimEnd (front ++ s) = front' ++ trimEnd s := by
  rw [trimEnd, List.reverse_append, List.dropWhile_append]
  split
  · next hblank =>
    refine ⟨trimEnd front, (trimEnd_prefix_self front).subset, ?_⟩
    rw [trimEnd, trimEnd, List.isEmpty_iff.mp hblank, List.reverse_nil, List.append_nil]
  · refine ⟨front, List.Subset.refl front, ?_⟩
    rw [List.reverse_append, List.reverse_reverse]
    rfl

/-! ## literal texts -/

/-- A word is expected at the very start, and what is behind it is the rest. -/
theorem expect_eq_some_iff : expect word s = some rest ↔ s = word ++ rest := by
  induction word generalizing s with
  | nil => simp [expect]
  | cons p ps ih =>
    cases s with
    | nil => simp [expect]
    | cons c s => by_cases hc : c = p <;> simp [expect, hc, ih]

/-- What is behind an expected word ends the text. -/
theorem suffix_of_expect (h : expect word s = some rest) : rest <:+ s :=
  ⟨word, (expect_eq_some_iff.mp h).symm⟩

theorem suffix_of_expect_trimStart (h : expect word (trimStart s) = some rest) : rest <:+ s :=
  (suffix_of_expect h).trans (trimStart_suffix s)

/-- A word is found at the start of a text exactly if it begins it. -/
theorem isSome_expect_iff : (expect word s).isSome = true ↔ word <+: s := by
  simp only [Option.isSome_iff_exists, expect_eq_some_iff]
  exact exists_congr fun rest => eq_comm

/-- There are two quotes, the single and the double one. -/
theorem eq_or_eq_of_isQuote {c : Char} (h : isQuote c) : c = '\'' ∨ c = '"' := by
  simpa [isQuote] using h

theorem isBlank_eq_false_of_isQuote {c : Char} (h : isQuote c) : isBlank c = false := by
  rcases eq_or_eq_of_isQuote h with rfl | rfl <;> decide

/-- A character between blanks. -/
theorem expectLoose_eq_some_iff {c : Char} (hc : isBlank c = false) :
    expectLoose [c] s = some rest ↔
      ∃ before after, (∀ b ∈ before, isBlank b) ∧ (∀ b ∈ after, isBlank b) ∧
        s = before ++ c :: (after ++ rest) ∧ trimStart rest = rest := by
  rw [expectLoose, Option.map_eq_some_iff]
  constructor
  · rintro ⟨t, ht, rfl⟩
    obtain ⟨before, hbefore, hs⟩ := exists_blanks_trimStart s
    obtain ⟨after, hafter, ht'⟩ := exists_blanks_trimStart t
    refine ⟨before, after, hbefore, hafter, ?_, trimStart_trimStart t⟩
    rw [← ht', hs, expect_eq_some_iff.mp ht]
    rfl
  · rintro ⟨before, after, hbefore, hafter, rfl, hrest⟩
    refine ⟨after ++ rest, ?_, by rw [trimStart_append_of_isBlank hafter, hrest]⟩
    rw [trimStart_append_of_isBlank hbefore, trimStart_cons_of_not_isBlank hc]
    exact expect_eq_some_iff.mpr rfl

/-- What is behind a word with blanks around it ends the text. -/
theorem suffix_of_expectLoose (h : expectLoose word s = some rest) : rest <:+ s := by
  obtain ⟨t, ht, rfl⟩ := Option.map_eq_some_iff.mp h
  exact (trimStart_suffix t).trans (suffix_of_expect_trimStart ht)

/-- A spelling regardless of case has a letter for each letter of the word. -/
theorem expectFolded_eq_some_iff {spelling : List Char} :
    expectFolded word s = some (spelling, rest) ↔
      s = spelling ++ rest ∧ List.Forall₂ (fun p c => foldsTo p c) word spelling := by
  induction word generalizing s spelling with
  | nil =>
    rw [List.forall₂_nil_left_iff]
    constructor
    · rintro ⟨⟩
      exact ⟨rfl, rfl⟩
    · rintro ⟨rfl, rfl⟩
      rfl
  | cons p ps ih =>
    cases s with
    | nil =>
      refine ⟨fun h => (nomatch h), ?_⟩
      rintro ⟨hnil, hspelling⟩
      rw [(List.append_eq_nil_iff.mp hnil.symm).1] at hspelling
      nomatch hspelling
    | cons c s =>
      rw [expectFolded]
      constructor
      · intro h
        split at h
        · next hfolds =>
          obtain ⟨⟨tail, rest'⟩, htail, heq⟩ := Option.map_eq_some_iff.mp h
          cases heq
          obtain ⟨rfl, hspelling⟩ := ih.mp htail
          exact ⟨rfl, .cons hfolds hspelling⟩
        · contradiction
      · rintro ⟨heq, hspelling⟩
        cases hspelling with
        | cons hfolds htail =>
          obtain ⟨rfl, hs⟩ := List.cons.inj heq
          rw [if_pos hfolds, ih.mpr ⟨hs, htail⟩]
          rfl

/-- Either quote can open a literal. -/
theorem expectQuote_eq_some_iff :
    expectQuote s = some rest ↔ ∃ q, isQuote q ∧ s = q :: rest := by
  cases s with
  | nil => simp [expectQuote]
  | cons c s => by_cases hc : isQuote c <;> grind [expectQuote]

theorem suffix_of_expectQuote (h : expectQuote s = some rest) : rest <:+ s := by
  obtain ⟨q, -, rfl⟩ := expectQuote_eq_some_iff.mp h
  exact List.suffix_cons q rest

/-- **Quoted literals** stand between two quotes, are not empty and hold no
quote. -/
theorem quoted_eq_some_iff :
    quoted s = some (literal, rest) ↔
      literal ≠ [] ∧ (∀ c ∈ literal, isQuote c = false) ∧
        ∃ q q', isQuote q ∧ isQuote q' ∧ s = q :: (literal ++ q' :: rest) := by
  constructor
  · intro h
    unfold quoted at h
    split at h
    · contradiction
    · next t hopens =>
      obtain ⟨q, hq, rfl⟩ := expectQuote_eq_some_iff.mp hopens
      split at h
      · contradiction
      · contradiction
      · next c cs rest' htaken hcloses =>
        cases h
        obtain ⟨q', hq', hdropped⟩ := expectQuote_eq_some_iff.mp hcloses
        have hplain := List.all_eq_true.mp (List.all_takeWhile (l := t) (p := (!isQuote ·)))
        rw [htaken] at hplain
        refine ⟨List.cons_ne_nil _ _, fun d hd => by simpa using hplain d hd, q, q', hq, hq', ?_⟩
        rw [← htaken, ← hdropped, List.takeWhile_append_dropWhile]
  · rintro ⟨hne, hplain, q, q', hq, hq', rfl⟩
    obtain ⟨c, cs, rfl⟩ := List.exists_cons_of_ne_nil hne
    have hplain' : ∀ d ∈ c :: cs, (!isQuote d) = true := fun d hd => by simp [hplain d hd]
    have hopens : expectQuote (q :: (c :: cs ++ q' :: rest)) = some (c :: cs ++ q' :: rest) :=
      expectQuote_eq_some_iff.mpr ⟨q, hq, rfl⟩
    have hcloses : expectQuote (q' :: rest) = some rest :=
      expectQuote_eq_some_iff.mpr ⟨q', hq', rfl⟩
    have htaken : (c :: cs ++ q' :: rest).takeWhile (!isQuote ·) = c :: cs := by
      rw [List.takeWhile_append_of_pos hplain']
      simp [hq']
    have hdropped : (c :: cs ++ q' :: rest).dropWhile (!isQuote ·) = q' :: rest := by
      rw [List.dropWhile_append_of_pos hplain']
      simp [hq']
    simp only [quoted, hopens, htaken, hdropped, hcloses]

/-- A literal has a character. -/
theorem ne_nil_of_quoted (h : quoted s = some (literal, rest)) : literal ≠ [] :=
  (quoted_eq_some_iff.mp h).1

/-- A quoted literal stands in the text. -/
theorem infix_of_quoted (h : quoted s = some (literal, rest)) : literal <:+: s := by
  obtain ⟨-, -, q, q', -, -, rfl⟩ := quoted_eq_some_iff.mp h
  exact ⟨[q], q' :: rest, by simp⟩

/-- The argument of a call is a literal that stands further on in the text. -/
theorem exists_suffix_of_argument (h : argument s = some (literal, rest)) :
    ∃ t rest', t <:+ s ∧ quoted t = some (literal, rest') := by
  simp only [argument, Option.bind_eq_bind, Option.bind_eq_some_iff] at h
  obtain ⟨t, hopens, ⟨literal', rest'⟩, hquoted, t', -, hpure⟩ := h
  cases hpure
  exact ⟨t, rest', suffix_of_expectLoose hopens, hquoted⟩

/-- A quoted literal in parentheses, the closing one behind blanks. -/
theorem argument_eq_some {left right : List Char} {q q' : Char} (hleft : ∀ c ∈ left, isBlank c)
    (hright : ∀ c ∈ right, isBlank c) (hq : isQuote q) (hq' : isQuote q') (hne : literal ≠ [])
    (hplain : ∀ c ∈ literal, isQuote c = false) :
    argument ('(' :: (left ++ q :: (literal ++ q' :: (right ++ ')' :: rest)))) =
      some (literal, rest) := by
  have hopens :
      expectLoose ['('] ('(' :: (left ++ q :: (literal ++ q' :: (right ++ ')' :: rest)))) =
        some (q :: (literal ++ q' :: (right ++ ')' :: rest))) :=
    (expectLoose_eq_some_iff (by decide)).mpr ⟨[], left, List.forall_mem_nil _, hleft, rfl,
      trimStart_cons_of_not_isBlank (isBlank_eq_false_of_isQuote hq) _⟩
  have hquoted : quoted (q :: (literal ++ q' :: (right ++ ')' :: rest))) =
      some (literal, right ++ ')' :: rest) :=
    quoted_eq_some_iff.mpr ⟨hne, hplain, q, q', hq, hq', rfl⟩
  have hcloses : expect [')'] (trimStart (right ++ ')' :: rest)) = some rest := by
    rw [trimStart_append_of_isBlank hright, trimStart_cons_of_not_isBlank (by decide)]
    rfl
  simp only [argument, hopens, hquoted, hcloses, Option.bind_eq_bind, Option.bind_some,
    Option.pure_def]

/-! ## searching -/

section Search

variable {α : Type} {f : List Char → Option α} {a : α}

/-- What a search finds is found at some place. -/
theorem exists_suffix_of_search (h : search f s = some a) : ∃ t, t <:+ s ∧ f t = some a := by
  induction s with
  | nil => exact ⟨[], List.suffix_rfl, h⟩
  | cons c rest ih =>
    rw [search, Option.orElse_eq_orElse, Option.orElse_eq_or, Option.or_eq_some_iff] at h
    rcases h with h | ⟨-, h⟩
    · exact ⟨c :: rest, List.suffix_rfl, h⟩
    · obtain ⟨t, ht, hf⟩ := ih h
      exact ⟨t, ht.trans (List.suffix_cons c rest), hf⟩

/-- What is found ahead is found at some place of the line. -/
theorem exists_append_of_ahead (h : ahead f s = some a) :
    ∃ front t, s = front ++ t ∧ '\n' ∉ front ∧ f t = some a := by
  induction s with
  | nil => exact ⟨[], [], rfl, List.not_mem_nil, h⟩
  | cons c rest ih =>
    rw [ahead, Option.orElse_eq_orElse, Option.orElse_eq_or, Option.or_eq_some_iff] at h
    rcases h with h | ⟨-, h⟩
    · exact ⟨[], c :: rest, rfl, List.not_mem_nil, h⟩
    · split at h
      · contradiction
      · next hc =>
        obtain ⟨front, t, rfl, hfront, hf⟩ := ih h
        refine ⟨c :: front, t, rfl, ?_, hf⟩
        rw [List.mem_cons, not_or]
        exact ⟨Ne.symm hc, hfront⟩

/-- What is found ahead is found at some place of the text. -/
theorem exists_suffix_of_ahead (h : ahead f s = some a) : ∃ t, t <:+ s ∧ f t = some a := by
  obtain ⟨front, t, rfl, -, hf⟩ := exists_append_of_ahead h
  exact ⟨t, List.suffix_append front t, hf⟩

/-- A search finds something if there is anything to find. -/
theorem isSome_search_iff :
    (search f s).isSome ↔ ∃ front t, s = front ++ t ∧ (f t).isSome := by
  constructor
  · intro h
    obtain ⟨a, ha⟩ := Option.isSome_iff_exists.mp h
    obtain ⟨t, ⟨front, hs⟩, hf⟩ := exists_suffix_of_search ha
    exact ⟨front, t, hs.symm, by rw [hf]; rfl⟩
  · rintro ⟨front, t, rfl, hf⟩
    induction front with
    | nil => cases t <;> simp [search, hf]
    | cons c front ih => simp [search, ih]

/-- **A search finds the leftmost place.** -/
theorem search_eq_some_iff :
    search f s = some a ↔
      ∃ front t, s = front ++ t ∧ f t = some a ∧
        ∀ front' t', s = front' ++ t' → (f t').isSome → front.length ≤ front'.length := by
  induction s with
  | nil =>
    rw [search]
    constructor
    · intro h
      exact ⟨[], [], rfl, h, fun _ _ _ _ => Nat.zero_le _⟩
    · rintro ⟨front, t, hs, h, -⟩
      rwa [(List.append_eq_nil_iff.mp hs.symm).2] at h
  | cons c rest ih =>
    rw [search, Option.orElse_eq_orElse, Option.orElse_eq_or, Option.or_eq_some_iff, ih]
    constructor
    · rintro (h | ⟨hnone, front, t, rfl, h, hleft⟩)
      · exact ⟨[], c :: rest, rfl, h, fun _ _ _ _ => Nat.zero_le _⟩
      · refine ⟨c :: front, t, rfl, h, fun front' t' hs hsome => ?_⟩
        cases front' with
        | nil =>
          rw [List.nil_append] at hs
          rw [← hs, hnone] at hsome
          contradiction
        | cons c' front' =>
          have hrest := (List.cons.inj hs).2
          exact Nat.succ_le_succ (hleft front' t' hrest hsome)
    · rintro ⟨front, t, hs, h, hleft⟩
      cases front with
      | nil =>
        rw [List.nil_append] at hs
        exact .inl (hs ▸ h)
      | cons c' front =>
        have hrest := (List.cons.inj hs).2
        refine .inr ⟨Option.eq_none_iff_forall_ne_some.mpr fun b hb => ?_, front, t, hrest, h,
          fun front' t' hs' hsome => ?_⟩
        · have hlen := hleft [] (c :: rest) rfl (by simp [hb])
          contradiction
        · have hlen := hleft (c :: front') t' (by rw [hs']; rfl) hsome
          exact Nat.le_of_succ_le_succ hlen

/-- What is found at the start of a text is found. -/
theorem search_of_eq_some (h : f s = some a) : search f s = some a :=
  search_eq_some_iff.mpr ⟨[], s, rfl, h, fun _ _ _ _ => Nat.zero_le _⟩

/-- What is found at no place in front is searched for behind. -/
theorem search_append_of_none {front : List Char}
    (h : ∀ t ≠ [], t <:+ front → f (t ++ s) = none) : search f (front ++ s) = search f s := by
  induction front with
  | nil => rfl
  | cons c front ih =>
    have hnone : f (c :: (front ++ s)) = none := h (c :: front) (by simp) List.suffix_rfl
    rw [List.cons_append, search, hnone, Option.orElse_eq_orElse, Option.orElse_eq_or,
      Option.none_or]
    exact ih fun t hne ht => h t hne (ht.trans (List.suffix_cons c front))

/-- Characters with which nothing begins are passed over. -/
theorem search_append_of_forall_none {front : List Char} (h : ∀ c ∈ front, ∀ t, f (c :: t) = none)
    (s : List Char) : search f (front ++ s) = search f s := by
  refine search_append_of_none fun t hne ht => ?_
  obtain ⟨c, t, rfl⟩ := List.exists_cons_of_ne_nil hne
  exact h c (ht.subset (List.mem_cons_self ..)) (t ++ s)

/-- What is found at a place of the line is found from any place in front. -/
theorem isSome_ahead_append {front : List Char} (hfront : '\n' ∉ front) (h : (f s).isSome) :
    (ahead f (front ++ s)).isSome := by
  induction front with
  | nil => cases s <;> simp [ahead, h]
  | cons c front ih =>
    obtain ⟨hc, hfront⟩ := not_or.mp (mt List.mem_cons.mpr hfront)
    simp [ahead, Ne.symm hc, ih hfront]

end Search

/-- A word is found if it stands anywhere in the text. -/
theorem contains_iff : contains word s = true ↔ word <:+: s := by
  simp only [contains, isSome_search_iff, isSome_expect_iff]
  constructor
  · rintro ⟨front, t, rfl, hword⟩
    exact hword.isInfix.trans (List.suffix_append front t).isInfix
  · rintro ⟨front, behind, rfl⟩
    exact ⟨front, word ++ behind, List.append_assoc .., List.prefix_append ..⟩

end RoutePaths.Text
