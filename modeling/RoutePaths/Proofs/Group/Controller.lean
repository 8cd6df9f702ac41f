import RoutePaths.Proofs.Group.Opening

/-!
# RoutePaths.Proofs.Group.Controller

The form `controller` is a case of the form `fluent`: a call of the method
`controller` is a static call like any other, and the prefix call that follows it
at once follows it somewhere.  So a line in which a group is found in the form
`controller` has one in the form `fluent` (`Form.fluent_covers_controller`).  The
two may read different literals, because they begin at different places; but the
form that is tried first decides, and the other one is never asked behind it
(`controller_redundant`).
-/

namespace RoutePaths.Group

open Text

namespace Form

variable {s literal : List Char}

/-- Blanks in front of a parenthesis stay blanks if some of them are taken for the
end of the name. -/
theorem trimStart_dropWhile_isWord {t u : List Char} (h : trimStart t = '(' :: u) :
    trimStart (t.dropWhile isWord) = '(' :: u := by
  have hopens : ('(' :: u).dropWhile isWord = '(' :: u :=
    List.dropWhile_cons_of_neg (by decide)
  obtain ⟨blanks, hblanks, ht⟩ := exists_blanks_trimStart t
  rw [ht, h, List.dropWhile_append]
  split
  · rw [hopens, trimStart_cons_of_not_isBlank (by decide)]
  · rw [trimStart_append_of_isBlank fun c hc => hblanks c (List.dropWhile_subset _ hc),
      trimStart_cons_of_not_isBlank (by decide)]

/-- **A fluent chain**: a static call, later an arrow, later a prefix call, and later
a group call. -/
theorem isSome_here?_fluent {name t args u calls v rest : List Char} (hname : name ≠ [])
    (hword : ∀ c ∈ name, isWord c) (ht : trimStart t = '(' :: (args ++ ')' :: u))
    (hargs : '\n' ∉ args) (hu : trimStart u = "->".toList ++ (calls ++ ("prefix".toList ++ v)))
    (hcalls : '\n' ∉ calls) (hargument : argument v = some (literal, rest))
    (hgroup : (ahead (groupCall "->group".toList) rest).isSome) :
    (fluent.here? ("Route::".toList ++ (name ++ t))).isSome := by
  obtain ⟨c, name, rfl⟩ := List.exists_cons_of_ne_nil hname
  have hlength : 0 < ((c :: name ++ t).takeWhile isWord).length := by
    rw [List.cons_append, List.takeWhile_cons_of_pos (hword c (List.mem_cons_self ..))]
    exact Nat.succ_pos _
  have hopens : expect ['('] (trimStart ((c :: name ++ t).dropWhile isWord)) =
      some (args ++ ')' :: u) := by
    rw [List.dropWhile_append_of_pos hword, trimStart_dropWhile_isWord ht]
    rfl
  have hroute : expect "Route::".toList ("Route::".toList ++ (c :: name ++ t)) =
      some (c :: name ++ t) := expect_eq_some_iff.mpr rfl
  have hcloses : expect [')'] (')' :: u) = some u := rfl
  have harrow : expect "->".toList (trimStart u) = some (calls ++ ("prefix".toList ++ v)) := by
    rw [hu]
    exact expect_eq_some_iff.mpr rfl
  have hcall : prefixCall "prefix".toList ("prefix".toList ++ v) = some (literal, rest) := by
    rw [prefixCall, expect_eq_some_iff.mpr rfl]
    exact hargument
  simp only [here?, hroute, hopens, guard, if_pos hlength, Option.bind_eq_bind, Option.bind_some,
    Option.pure_def]
  refine isSome_ahead_append hargs ?_
  simp only [hcloses, harrow, Option.bind_some]
  refine isSome_ahead_append hcalls ?_
  simpa only [hcall, Option.bind_some, provided, Option.isSome_map] using hgroup

/-! ## forms that cover others -/

/-- Lines in which the other form finds a group have one in this form. -/
def Covers (form other : Form) : Prop :=
  ∀ line, (other.find? line).isSome → (form.find? line).isSome

/-- What covers another form at every place covers it. -/
theorem covers_of_here? {form other : Form}
    (h : ∀ s, (other.here? s).isSome → (form.here? s).isSome) : form.Covers other := by
  intro line hfound
  obtain ⟨front, s, rfl, hhere⟩ := isSome_search_iff.mp hfound
  exact isSome_search_iff.mpr ⟨front, s, rfl, h s hhere⟩

theorem fluent_covers_controller : fluent.Covers controller := by
  refine covers_of_here? fun s hhere => ?_
  obtain ⟨literal, hliteral⟩ := Option.isSome_iff_exists.mp hhere
  obtain ⟨t, args, u, v, rest, rfl, ht, hargs, hu, hargument, hgroup⟩ :=
    exists_of_here?_controller hliteral
  -- The name of the class belongs to the arguments of the call.
  have hcall : trimStart t = '(' :: (args ++ "::class".toList ++ ')' :: u) := by
    rw [ht, List.append_assoc]
  have hname : '\n' ∉ args ++ "::class".toList := by
    rw [List.mem_append, not_or]
    exact ⟨hargs, by decide⟩
  have harrow : trimStart u = "->".toList ++ ([] ++ ("prefix".toList ++ v)) := hu
  have hword : ∀ c ∈ "controller".toList, isWord c :=
    List.all_eq_true.mp (by decide : "controller".toList.all isWord = true)
  exact isSome_here?_fluent (by decide) hword hcall hname harrow List.not_mem_nil hargument hgroup

end Form

/-! ## lists of forms -/

/-- **A covered form** need not be tried behind the form that covers it. -/
theorem opening?_of_covers {form other : Form} (h : form.Covers other)
    (before between behind : List Form) (line : List Char) :
    opening? (before ++ form :: between ++ other :: behind) line =
      opening? (before ++ form :: between ++ behind) line := by
  have hother : form.find? line = none → other.find? line = none := by
    intro hnone
    by_contra hsome
    have hfound := h line (Option.isSome_iff_ne_none.mpr hsome)
    rw [hnone] at hfound
    contradiction
  simp only [opening?, List.findSome?_append, List.findSome?_cons]
  cases hform : form.find? line with
  | none => rw [hother hform]
  | some literal => simp only [Option.or_assoc, Option.some_or]

/-- Forms that find the same literals give the same prefixes. -/
theorem linePrefixes_congr {forms others : List Form}
    (h : ∀ line, opening? forms line = opening? others line) (text : String) :
    linePrefixes forms text = linePrefixes others text := by
  have hstep : Scan.step forms = Scan.step others := by
    funext scan line
    rw [Scan.step, Scan.step, h]
  simp only [linePrefixes_eq_map, Scan.run, hstep]

/-- **The form `controller` is redundant.**  A line in which it finds a group has one
in the form `fluent`; behind `fluent` it can be left out of any list of forms,
and so out of the list of all forms. -/
theorem controller_redundant :
    (∀ line, (Form.controller.find? line).isSome → (Form.fluent.find? line).isSome) ∧
    (∀ before between behind line,
      opening? (before ++ .fluent :: between ++ .controller :: behind) line =
        opening? (before ++ .fluent :: between ++ behind) line) ∧
    ∀ text, linePrefixes Form.all text =
      linePrefixes [.array, .chained, .fluent, .direct] text := by
  have hcovers := Form.fluent_covers_controller
  refine ⟨hcovers, opening?_of_covers hcovers, linePrefixes_congr fun line => ?_⟩
  exact opening?_of_covers hcovers [.array, .chained] [] [.direct] line

/-- A controller class behind a comment, with blanks in between. -/
theorem controller_redundant_blanks :
    let line := "/* api */ Route::controller ( A::class) ->prefix( 'a' )->as('x')->group(f);".toList
    (Form.controller.find? line).isSome ∧ (Form.fluent.find? line).isSome := by
  intro line
  have hfound : (Form.controller.find? line).isSome := by decide
  exact ⟨hfound, controller_redundant.1 line hfound⟩

/-- In front of `fluent` the form decides: a static call in front of the controller
class has a prefix call, too. -/
example :
    let line := "Route::any(f)->prefix('a'); ".toList ++
      "Route::controller(A::class)->prefix('b')->group(g);".toList
    opening? [.controller, .fluent] line = some "b".toList ∧
      opening? [.fluent] line = some "a".toList := by
  decide

end RoutePaths.Group
