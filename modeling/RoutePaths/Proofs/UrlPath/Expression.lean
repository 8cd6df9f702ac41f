import Mathlib.Data.List.Duplicate
import RoutePaths.Proofs.UrlPath.Template

/-!
# RoutePaths.Proofs.UrlPath.Expression

The template expressions of an OpenAPI path: whatever stands between braces,
with no brace and no slash in it.  Placeholders are names only, so an expression
need not be one.  In a converted path, the parameters are the expressions that
are names (`mem_parameterNames_iff`), and no name is repeated exactly if no
such expression stands there twice (`nodup_parameterNames_iff`).
-/

namespace RoutePaths.UrlPath

variable {s a b x : List Char} {isOptional : Bool}

/-- A text in braces. -/
def braced (x : List Char) : List Char := '{' :: (x ++ ['}'])

/-- The path has a template expression with that text between its braces. -/
structure HasExpression (path x : List Char) : Prop where
  ne_nil : x ≠ []
  plain : ∀ c ∈ x, c ≠ '{' ∧ c ≠ '}' ∧ c ≠ '/'
  stands : braced x <:+: path

/-- The text stands at two places of the path, one behind the other. -/
def StandsTwice (path x : List Char) : Prop := ∃ a b c, path = a ++ x ++ b ++ x ++ c

/-- Names have no braces and no slashes in them. -/
theorem HasExpression.of_isName (hname : IsName x) (hstands : braced x <:+: s) :
    HasExpression s x where
  ne_nil := hname.1
  plain c hc := by
    refine ⟨?_, ?_, ?_⟩
    · rintro rfl
      exact hname.not_mem isWord_openBrace hc
    · rintro rfl
      exact hname.not_mem isWord_closeBrace hc
    · rintro rfl
      exact hname.not_mem isWord_slash hc
  stands := hstands

/-! ## parameters and where they stand -/

/-- A name in braces is a parameter wherever it stands. -/
theorem parts_braced (hname : IsName x) (a b : List Char) :
    parts (a ++ braced x ++ b) = parts a ++ .parameter x false :: parts b := by
  have hplaceholder := parts_placeholder hname false b
  rw [closing, if_neg Bool.false_ne_true] at hplaceholder
  rw [braced, List.append_assoc, List.cons_append, parts_append_brace, hplaceholder]

/-- In a converted path, the parts are written one behind the other. -/
theorem eq_append_of_parts_eq (hs : converted s = s) {front back : List Part}
    (h : parts s = front ++ .parameter x isOptional :: back) :
    s = front.flatMap Part.chars ++ braced x ++ back.flatMap Part.chars := by
  rw [← hs, converted, h]
  simp [Part.chars, braced]

/-! ## names -/

/-- The names of the parameters of a path. -/
def parameterNames (s : List Char) : List String := (parts s).filterMap Part.name?

theorem exists_append_of_mem_names {ps : List Part} {name : String}
    (h : name ∈ ps.filterMap Part.name?) :
    ∃ front isOptional back, ps = front ++ .parameter name.toList isOptional :: back := by
  obtain ⟨part, hpart, hname⟩ := List.mem_filterMap.mp h
  obtain ⟨front, back, rfl⟩ := List.append_of_mem hpart
  cases part with
  | char c => contradiction
  | parameter x isOptional =>
    obtain rfl := Option.some.inj hname
    rw [String.toList_ofList]
    exact ⟨front, isOptional, back, rfl⟩

/-- A name that is repeated comes from two parameters. -/
theorem exists_append_of_not_nodup_names {ps : List Part}
    (h : ¬ (ps.filterMap Part.name?).Nodup) :
    ∃ name a isOptional₁ b isOptional₂ c,
      ps = a ++ .parameter name isOptional₁ :: b ++ .parameter name isOptional₂ :: c := by
  obtain ⟨name, hduplicate⟩ := List.exists_duplicate_iff_not_nodup.mpr h
  obtain ⟨r₁, r₂, hnames, hfirst, hsecond⟩ :=
    List.cons_sublist_iff.mp (List.duplicate_iff_sublist.mp hduplicate)
  rw [List.singleton_sublist] at hsecond
  obtain ⟨ps₁, ps₂, rfl, rfl, rfl⟩ := List.filterMap_eq_append_iff.mp hnames
  obtain ⟨a, isOptional₁, b₁, rfl⟩ := exists_append_of_mem_names hfirst
  obtain ⟨b₂, isOptional₂, c, rfl⟩ := exists_append_of_mem_names hsecond
  exact ⟨name.toList, a, isOptional₁, b₁ ++ b₂, isOptional₂, c, by simp⟩

/-- **The parameters** of a converted path are its expressions that are names. -/
theorem mem_parameterNames_iff (hs : converted s = s) :
    String.ofList x ∈ parameterNames s ↔ IsName x ∧ braced x <:+: s := by
  constructor
  · intro h
    obtain ⟨front, isOptional, back, hparts⟩ := exists_append_of_mem_names h
    rw [String.toList_ofList] at hparts
    have hmem : .parameter x isOptional ∈ parts s := by simp [hparts]
    exact ⟨isName_of_mem_parts hmem, _, _, (eq_append_of_parts_eq hs hparts).symm⟩
  · rintro ⟨hname, a, b, rfl⟩
    rw [parameterNames, parts_braced hname]
    simp [Part.name?]

/-- **No name is repeated** exactly if no name in braces stands there twice. -/
theorem nodup_parameterNames_iff (hs : converted s = s) :
    (parameterNames s).Nodup ↔ ∀ x, IsName x → ¬ StandsTwice s (braced x) := by
  constructor
  · rintro h x hname ⟨a, b, c, rfl⟩
    have hparts : parts (a ++ braced x ++ b ++ braced x ++ c) =
        parts a ++ .parameter x false :: parts b ++ .parameter x false :: parts c := by
      rw [parts_braced hname, parts_braced hname]
    rw [parameterNames, hparts] at h
    simp [Part.name?, List.nodup_append] at h
  · intro h
    by_contra hnodup
    obtain ⟨x, a, isOptional₁, b, isOptional₂, c, hparts⟩ :=
      exists_append_of_not_nodup_names hnodup
    have hmem : .parameter x isOptional₁ ∈ parts s := by simp [hparts]
    refine h x (isName_of_mem_parts hmem) ⟨a.flatMap Part.chars, b.flatMap Part.chars,
      c.flatMap Part.chars, ?_⟩
    rw [eq_append_of_parts_eq hs hparts]
    simp [Part.chars, braced]

end RoutePaths.UrlPath
