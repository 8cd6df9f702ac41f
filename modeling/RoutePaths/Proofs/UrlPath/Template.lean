import RoutePaths.UrlPath.Template

/-!
# RoutePaths.Proofs.UrlPath.Template

Reading and writing path templates:

* `placeholder?_eq_some_iff` — a placeholder is a name between braces, perhaps
  with a question mark behind it, and it is read wherever one stands;
* `parts_append_brace` — nothing reaches over an opening brace: a path parts
  there, and what stands before and behind it is read on its own;
* `parts_converted` — what is written is read back as it was, but with no
  parameter optional.

The last one needs that leaving out question marks makes no new placeholder of
the text around them.  It makes none because a new one would have to reach from
an opening brace that stays text over one that does not: up to the next opening
brace, nothing is left out (`isPrefix_of_converted`).
-/

namespace RoutePaths.UrlPath

/-! ## names -/

/-- A parameter name: a word of at least one character. -/
def IsName (name : List Char) : Prop := name ≠ [] ∧ ∀ c ∈ name, Text.isWord c

instance (name : List Char) : Decidable (IsName name) := inferInstanceAs (Decidable (_ ∧ _))

/-- What stands behind a parameter name. -/
def closing (isOptional : Bool) : List Char := if isOptional then ['?', '}'] else ['}']

theorem isWord_openBrace : Text.isWord '{' = false := by decide

theorem isWord_closeBrace : Text.isWord '}' = false := by decide

theorem isWord_questionMark : Text.isWord '?' = false := by decide

theorem isWord_slash : Text.isWord '/' = false := by decide

variable {s a b name rest : List Char} {isOptional : Bool}

/-- No word character is one that is none. -/
theorem IsName.not_mem (h : IsName name) {c : Char} (hc : Text.isWord c = false) : c ∉ name :=
  fun hmem => absurd (h.2 c hmem) (by simp [hc])

/-- No brace opens between the braces of a placeholder. -/
theorem IsName.openBrace_not_mem (h : IsName name) (isOptional : Bool) :
    '{' ∉ name ++ closing isOptional := by
  rw [List.mem_append, not_or]
  refine ⟨h.not_mem isWord_openBrace, ?_⟩
  cases isOptional <;> decide

/-! ## placeholders -/

/-- **A placeholder** is a name and what closes it. -/
theorem placeholder?_eq_some_iff :
    placeholder? s = some (name, isOptional, rest) ↔
      IsName name ∧ s = name ++ closing isOptional ++ rest := by
  constructor
  · intro h
    have hsplit : s.takeWhile Text.isWord ++ s.dropWhile Text.isWord = s :=
      List.takeWhile_append_dropWhile
    have hword : ∀ c ∈ s.takeWhile Text.isWord, Text.isWord c :=
      List.all_eq_true.mp List.all_takeWhile
    unfold placeholder? at h
    split at h
    · contradiction
    · next hdrop hne =>
      cases h
      rw [hdrop] at hsplit
      exact ⟨⟨hne, hword⟩, by simpa [closing] using hsplit.symm⟩
    · next hdrop hne =>
      cases h
      rw [hdrop] at hsplit
      exact ⟨⟨hne, hword⟩, by simpa [closing] using hsplit.symm⟩
    · contradiction
  · rintro ⟨hname, rfl⟩
    -- The name ends where it is closed, because what closes it is no word.
    have htake : (name ++ closing isOptional ++ rest).takeWhile Text.isWord = name := by
      rw [List.append_assoc, List.takeWhile_append_of_pos hname.2]
      cases isOptional <;> simp [closing, isWord_closeBrace, isWord_questionMark]
    have hdrop : (name ++ closing isOptional ++ rest).dropWhile Text.isWord =
        closing isOptional ++ rest := by
      rw [List.append_assoc, List.dropWhile_append_of_pos hname.2]
      cases isOptional <;> simp [closing, isWord_closeBrace, isWord_questionMark]
    obtain ⟨c, cs, rfl⟩ := List.exists_cons_of_ne_nil hname.1
    rw [placeholder?, htake, hdrop]
    cases isOptional <;> rfl

/-- There is no placeholder exactly if no name with its closing begins the text. -/
theorem placeholder?_eq_none_iff :
    placeholder? s = none ↔
      ∀ name isOptional, IsName name → ¬ name ++ closing isOptional <+: s := by
  rw [Option.eq_none_iff_forall_ne_some]
  constructor
  · rintro h name isOptional hname ⟨rest, rfl⟩
    exact h (name, isOptional, rest) (placeholder?_eq_some_iff.mpr ⟨hname, rfl⟩)
  · rintro h ⟨name, isOptional, rest⟩ hsome
    obtain ⟨hname, rfl⟩ := placeholder?_eq_some_iff.mp hsome
    exact h name isOptional hname (List.prefix_append _ _)

/-! ## parts -/

@[simp] theorem parts_nil : parts [] = [] := by
  rw [parts]

/-- A character that opens nothing is a part by itself. -/
theorem parts_cons_of_ne {c : Char} (hc : c ≠ '{') (s : List Char) :
    parts (c :: s) = .char c :: parts s := by
  rw [parts, if_neg hc]

/-- A brace without a placeholder behind it is a part like any other character. -/
theorem parts_brace_of_none (h : placeholder? s = none) :
    parts ('{' :: s) = .char '{' :: parts s := by
  rw [parts, if_pos rfl]
  split
  · next hsome => rw [h] at hsome; contradiction
  · rfl

/-- A placeholder is one part. -/
theorem parts_placeholder (hname : IsName name) (isOptional : Bool) (s : List Char) :
    parts ('{' :: (name ++ closing isOptional ++ s)) = .parameter name isOptional :: parts s := by
  have hsome : placeholder? (name ++ closing isOptional ++ s) = some (name, isOptional, s) :=
    placeholder?_eq_some_iff.mpr ⟨hname, rfl⟩
  rw [parts, if_pos rfl]
  split
  · next hsome' => rw [hsome] at hsome'; cases hsome'; rfl
  · next hnone => rw [hsome] at hnone; contradiction

/-- The parameters found in a path have names. -/
theorem isName_of_mem_parts (h : .parameter name isOptional ∈ parts s) : IsName name := by
  fun_induction parts s with
  | case1 => contradiction
  | case2 rest name' isOptional' rest' hsome ih =>
    rcases List.mem_cons.mp h with heq | hmem
    · cases heq
      exact (placeholder?_eq_some_iff.mp hsome).1
    · exact ih hmem
  | case3 rest hnone ih => exact ih (by simpa using h)
  | case4 c rest hc ih => exact ih (by simpa using h)

/-- What stands before an opening brace, and has none in it, stands there also if
something else follows. -/
theorem isPrefix_of_append_brace (ha : '{' ∉ a) (h : a <+: s ++ '{' :: b) : a <+: s := by
  obtain ⟨t, ht⟩ := h
  rcases List.append_eq_append_iff.mp ht with ⟨c, rfl, -⟩ | ⟨c, rfl, hc⟩
  · exact List.prefix_append _ _
  · cases c with
    | nil => simp
    | cons d c =>
      obtain ⟨rfl, -⟩ := List.cons.inj hc
      simp at ha

/-- **A path parts at an opening brace.** -/
theorem parts_append_brace (a b : List Char) :
    parts (a ++ '{' :: b) = parts a ++ parts ('{' :: b) := by
  fun_induction parts a with
  | case1 => rfl
  | case2 rest name isOptional rest' hsome ih =>
    obtain ⟨hname, rfl⟩ := placeholder?_eq_some_iff.mp hsome
    rw [List.cons_append, List.append_assoc, parts_placeholder hname, ih, List.cons_append]
  | case3 rest hnone ih =>
    have hnone' : placeholder? (rest ++ '{' :: b) = none := by
      rw [placeholder?_eq_none_iff] at hnone ⊢
      intro name isOptional hname hprefix
      exact hnone name isOptional hname
        (isPrefix_of_append_brace (hname.openBrace_not_mem isOptional) hprefix)
    rw [List.cons_append, parts_brace_of_none hnone', ih, List.cons_append]
  | case4 c rest hc ih => rw [List.cons_append, parts_cons_of_ne hc, ih, List.cons_append]

/-! ## converting -/

/-- The path with its parameters in braces alone. -/
def converted (s : List Char) : List Char := (parts s).flatMap Part.chars

/-- The part with its parameter not optional. -/
def Part.required : Part → Part
  | .char c => .char c
  | .parameter name _ => .parameter name false

@[simp] theorem Part.chars_required (p : Part) : p.required.chars = p.chars := by
  cases p <;> rfl

@[simp] theorem Part.name?_required (p : Part) : p.required.name? = p.name? := by
  cases p <;> rfl

/-- A required part is no optional parameter. -/
theorem Part.required_ne_optional (p : Part) (name : List Char) :
    p.required ≠ .parameter name true := by
  cases p <;> simp [required]

/-- A character that opens nothing is kept. -/
theorem converted_cons_of_ne {c : Char} (hc : c ≠ '{') (s : List Char) :
    converted (c :: s) = c :: converted s := by
  rw [converted, parts_cons_of_ne hc]
  rfl

/-- A brace without a placeholder behind it is kept. -/
theorem converted_brace_of_none (h : placeholder? s = none) :
    converted ('{' :: s) = '{' :: converted s := by
  rw [converted, parts_brace_of_none h]
  rfl

/-- A placeholder loses its question mark and is kept otherwise. -/
theorem converted_placeholder (hname : IsName name) (isOptional : Bool) (s : List Char) :
    converted ('{' :: (name ++ closing isOptional ++ s)) =
      '{' :: (name ++ closing false ++ converted s) := by
  rw [converted, parts_placeholder hname]
  simp [converted, Part.chars, closing]

/-- Up to the first opening brace, nothing is left out. -/
theorem isPrefix_of_converted (ha : '{' ∉ a) (h : a <+: converted s) : a <+: s := by
  induction a generalizing s with
  | nil => exact List.nil_prefix
  | cons c a ih =>
    rw [List.mem_cons, not_or] at ha
    cases s with
    | nil => simp [converted] at h
    | cons d s =>
      by_cases hd : d = '{'
      · subst hd
        exfalso
        cases hplaceholder : placeholder? s with
        | none =>
          rw [converted_brace_of_none hplaceholder, List.cons_prefix_cons] at h
          exact ha.1 h.1.symm
        | some found =>
          obtain ⟨hname, rfl⟩ := placeholder?_eq_some_iff.mp hplaceholder
          rw [converted_placeholder hname, List.cons_prefix_cons] at h
          exact ha.1 h.1.symm
      · rw [converted_cons_of_ne hd, List.cons_prefix_cons] at h
        obtain ⟨rfl, h⟩ := h
        exact List.cons_prefix_cons.mpr ⟨rfl, ih ha.2 h⟩

/-- An opening brace that stays text stays text. -/
theorem placeholder?_converted_of_none (h : placeholder? s = none) :
    placeholder? (converted s) = none := by
  rw [placeholder?_eq_none_iff] at h ⊢
  intro name isOptional hname hprefix
  exact h name isOptional hname
    (isPrefix_of_converted (hname.openBrace_not_mem isOptional) hprefix)

/-- **What is written is read back**, with no parameter optional. -/
theorem parts_converted (s : List Char) : parts (converted s) = (parts s).map Part.required := by
  fun_induction parts s with
  | case1 => simp [converted]
  | case2 rest name isOptional rest' hsome ih =>
    obtain ⟨hname, rfl⟩ := placeholder?_eq_some_iff.mp hsome
    rw [converted_placeholder hname, parts_placeholder hname, ih]
    rfl
  | case3 rest hnone ih =>
    rw [converted_brace_of_none hnone, parts_brace_of_none (placeholder?_converted_of_none hnone),
      ih]
    rfl
  | case4 c rest hc ih =>
    rw [converted_cons_of_ne hc, parts_cons_of_ne hc, ih]
    rfl

/-- Converting a converted path changes nothing: its placeholders have no question mark left. -/
@[simp] theorem converted_converted (s : List Char) : converted (converted s) = converted s := by
  rw [converted, parts_converted, List.flatMap_map]
  simp [converted]

/-! ## templates -/

namespace Template

theorem toList_path_ofPath (path : String) : (ofPath path).path.toList = converted path.toList :=
  String.toList_ofList

/-- **Converting a path twice** only forgets which parameters are optional. -/
theorem ofPath_path (path : String) :
    ofPath (ofPath path).path = ⟨(ofPath path).parts.map Part.required⟩ := by
  rw [ofPath, toList_path_ofPath, parts_converted]
  rfl

/-- The path of a template is its own path. -/
theorem path_ofPath_path (path : String) :
    (ofPath (ofPath path).path).path = (ofPath path).path := by
  rw [ofPath_path, Template.path, List.flatMap_map]
  simp [Template.path]

theorem names_ofPath_path (path : String) :
    (ofPath (ofPath path).path).names = (ofPath path).names := by
  have hname : Part.name? ∘ Part.required = Part.name? := funext Part.name?_required
  rw [ofPath_path, names, List.filterMap_map, hname]
  rfl

/-- The path of a template has no optional name. -/
theorem optionalNames_ofPath_path (path : String) :
    (ofPath (ofPath path).path).optionalNames = [] := by
  have hrequired : ∀ name, (ofPath (ofPath path).path).isOptional name = false := by
    intro name
    rw [ofPath_path]
    simp [isOptional, Part.required_ne_optional]
  rw [optionalNames, List.filter_eq_nil_iff.mpr fun name _ => by simp [hrequired]]
  rfl

end Template

end RoutePaths.UrlPath
