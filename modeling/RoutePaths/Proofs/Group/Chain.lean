import RoutePaths.Proofs.Group.Opening
import RoutePaths.Proofs.Text.Occurrence

/-!
# RoutePaths.Proofs.Group.Chain

Chains of calls that go on to a group call and have one prefix call among them
(`Chain`).  The literal of the prefix call is found if other calls stand in
front of it, or if none stand behind (`Chain.finds_literal_iff`):

* what a form reads stands behind the word `prefix`, and a chain has this word
  in its prefix call and, at most, in its literal (`Chain.split_of_prefix`);
* behind other calls, the form `chained` reads the call (`Chain.find?_chained`);
* in front of all other calls, only the form `direct` can read it, and every
  other form reads something behind the literal, if anything
  (`Chain.infix_behind_of_find?`).
-/

namespace RoutePaths.Group

open Text

/-! ## chains -/

/-- A text on one line without parentheses that has neither of the words
`prefix` and `group` in it. -/
structure IsInnocent (s : List Char) : Prop where
  noBreak : '\n' ∉ s
  noOpening : '(' ∉ s
  noClosing : ')' ∉ s
  noPrefix : ¬ "prefix".toList <:+: s
  noGroup : ¬ "group".toList <:+: s

instance (s : List Char) : Decidable (IsInnocent s) :=
  decidable_of_iff ('\n' ∉ s ∧ '(' ∉ s ∧ ')' ∉ s ∧ ¬ "prefix".toList <:+: s ∧
      ¬ "group".toList <:+: s)
    ⟨fun ⟨h₁, h₂, h₃, h₄, h₅⟩ => ⟨h₁, h₂, h₃, h₄, h₅⟩, fun ⟨h₁, h₂, h₃, h₄, h₅⟩ =>
      ⟨h₁, h₂, h₃, h₄, h₅⟩⟩

/-- A call in a chain that has nothing to do with prefixes and groups. -/
structure OtherCall where
  name : List Char
  args : List Char
  name_innocent : IsInnocent name
  args_innocent : IsInnocent args

/-- The call as it is written. -/
def OtherCall.text (call : OtherCall) : List Char := call.name ++ '(' :: (call.args ++ [')'])

/-- Such a call does not bring the word in. -/
theorem OtherCall.not_prefix_infix_append (call : OtherCall) {s : List Char}
    (h : ¬ "prefix".toList <:+: s) : ¬ "prefix".toList <:+: call.text ++ s := by
  rw [text, List.append_assoc, List.cons_append, List.append_assoc]
  exact not_infix_append_cons (by decide) call.name_innocent.noPrefix
    (not_infix_append_cons (by decide) call.args_innocent.noPrefix h)

/-- Such a call stays on the line. -/
theorem OtherCall.not_mem_text (call : OtherCall) : '\n' ∉ call.text := by
  simp [text, call.name_innocent.noBreak, call.args_innocent.noBreak]

/-- A chain of calls with one prefix call that goes on to a group call. -/
structure Chain where
  /-- The calls in front of the prefix call. -/
  before : List OtherCall
  /-- The blanks in front of the literal. -/
  left : List Char
  /-- The quote in front of the literal. -/
  opening : Char
  /-- The prefix literal. -/
  literal : List Char
  /-- The quote behind the literal. -/
  closing : Char
  /-- The blanks behind the literal. -/
  right : List Char
  /-- The calls between the prefix call and the group call. -/
  after : List OtherCall
  left_blank : ∀ c ∈ left, isBlank c
  opening_quote : isQuote opening
  literal_ne_nil : literal ≠ []
  literal_plain : ∀ c ∈ literal, isQuote c = false
  closing_quote : isQuote closing
  right_blank : ∀ c ∈ right, isBlank c

namespace Chain

/-- The prefix call as it is written. -/
def prefixText (chain : Chain) : List Char :=
  "prefix".toList ++ '(' :: (chain.left ++ chain.opening :: chain.literal
    ++ chain.closing :: chain.right ++ [')'])

/-- The line of the chain, up to the brace of the closure. -/
def line (chain : Chain) : List Char :=
  "Route::".toList ++ (chain.before.flatMap fun call => call.text ++ "->".toList)
    ++ chain.prefixText ++ (chain.after.flatMap fun call => "->".toList ++ call.text)
    ++ "->group(function () \x7b".toList

variable (chain : Chain)

/-- What stands in front of the prefix call. -/
def front : List Char :=
  "Route::".toList ++ chain.before.flatMap fun call => call.text ++ "->".toList

/-- What stands behind the prefix call. -/
def rest : List Char :=
  (chain.after.flatMap fun call => "->".toList ++ call.text) ++ "->group(function () \x7b".toList

/-- What stands behind the literal. -/
def behind : List Char := chain.right ++ ')' :: chain.rest

/-- What stands behind the word `prefix` of the prefix call. -/
def argumentOn : List Char :=
  '(' :: (chain.left ++ chain.opening :: (chain.literal ++ chain.closing :: chain.behind))

/-- The line of a chain is parted where its prefix call stands. -/
theorem line_eq : chain.line = chain.front ++ ("prefix".toList ++ chain.argumentOn) := by
  unfold line prefixText front argumentOn behind rest
  simp only [List.append_assoc, List.cons_append, List.nil_append]

/-! ## the word in a chain -/

/-- No prefix call stands in front of the one of the chain. -/
theorem not_prefix_infix_front : ¬ "prefix".toList <:+: chain.front := by
  have hcalls : ¬ "prefix".toList <:+:
      chain.before.flatMap fun call => call.text ++ "->".toList := by
    induction chain.before with
    | nil => decide
    | cons call calls ih =>
      rw [List.flatMap_cons, List.append_assoc]
      exact call.not_prefix_infix_append
        (not_infix_cons (by decide) (not_infix_cons (by decide) ih))
  exact not_infix_append_cons (s := "Route".toList) (by decide) (by decide)
    (not_infix_cons (by decide) hcalls)

/-- No prefix call stands behind the one of the chain. -/
theorem not_prefix_infix_rest : ¬ "prefix".toList <:+: chain.rest := by
  rw [rest]
  induction chain.after with
  | nil => decide
  | cons call calls ih =>
    rw [List.flatMap_cons, List.append_assoc, List.append_assoc]
    exact not_infix_cons (by decide) (not_infix_cons (by decide) (call.not_prefix_infix_append ih))

theorem not_prefix_infix_behind : ¬ "prefix".toList <:+: chain.behind := by
  refine not_infix_append_cons (by decide) (fun h => ?_) chain.not_prefix_infix_rest
  have hp := chain.right_blank 'p' (h.subset (by decide))
  exact absurd hp (by decide)

/-- **The word in a chain** is that of the prefix call or stands in the literal. -/
theorem split_of_prefix {s t : List Char} (h : chain.line = s ++ ("prefix".toList ++ t)) :
    (s = chain.front ∧ t = chain.argumentOn) ∨
      "prefix".toList <:+: chain.literal ∧
        ∃ t', (∀ c ∈ t', isQuote c = false) ∧ t = t' ++ chain.closing :: chain.behind := by
  have hquote : ∀ {q}, isQuote q → q ∉ "prefix".toList := by
    intro q hq
    rcases eq_or_eq_of_isQuote hq with rfl | rfl <;> decide
  have hopening := hquote chain.opening_quote
  have hclosing := hquote chain.closing_quote
  rw [line_eq] at h
  rcases eq_of_append_word (by decide) chain.not_prefix_infix_front h with hcall | ⟨u, hu⟩
  · exact .inl hcall
  · right
    have hargument : u ++ ("prefix".toList ++ t) = ('(' :: chain.left) ++ chain.opening ::
        (chain.literal ++ chain.closing :: chain.behind) := hu.symm
    rcases split_of_append_word hopening hargument with ⟨u', hleft, -⟩ | ⟨u', -, hliteral⟩
    · have hp : 'p' ∈ '(' :: chain.left := by rw [hleft]; simp
      rcases List.mem_cons.mp hp with hp | hp
      · exact absurd hp (by decide)
      · exact absurd (chain.left_blank 'p' hp) (by decide)
    · rcases split_of_append_word hclosing hliteral.symm with ⟨t', hword, ht⟩ | ⟨u'', -, hbehind⟩
      · refine ⟨⟨u', t', by rw [hword, List.append_assoc]⟩, t', fun c hc => ?_, ht⟩
        exact chain.literal_plain c (by rw [hword]; simp [hc])
      · exact absurd ⟨u'', t, by rw [hbehind, List.append_assoc]⟩ chain.not_prefix_infix_behind

variable {chain} {literal : List Char}

theorem front_eq (h : chain.before = []) : chain.front = "Route::".toList := by
  unfold front
  rw [h, List.flatMap_nil, List.append_nil]

/-- What stands behind the prefix call goes on to the group call. -/
theorem exists_rest_eq :
    ∃ s, '\n' ∉ s ∧ chain.rest = "->".toList ++ (s ++ "group(function () \x7b".toList) := by
  rw [rest]
  induction chain.after with
  | nil => exact ⟨[], List.not_mem_nil, rfl⟩
  | cons call calls ih =>
    obtain ⟨s, hs, hrest⟩ := ih
    refine ⟨call.text ++ ("->".toList ++ s), fun hmem => ?_, ?_⟩
    · rcases List.mem_append.mp hmem with hmem | hmem
      · exact call.not_mem_text hmem
      · rcases List.mem_append.mp hmem with hmem | hmem
        · exact absurd hmem (by decide)
        · exact hs hmem
    · rw [List.flatMap_cons, List.append_assoc, hrest]
      simp only [List.append_assoc]

/-- What is read as an argument from inside the literal on stands behind it. -/
theorem infix_behind_of_argument {s t rest : List Char} (hs : ∀ c ∈ s, isQuote c = false)
    (ht : t = s ++ chain.closing :: chain.behind) (h : argument t = some (literal, rest)) :
    literal <:+: chain.behind ∧ ∃ c ∈ chain.behind, isQuote c := by
  obtain ⟨u, rest', ⟨v, hu⟩, hquoted⟩ := exists_suffix_of_argument h
  obtain ⟨-, -, q, q', hq, hq', rfl⟩ := quoted_eq_some_iff.mp hquoted
  -- the opening quote is the closing quote of the chain's literal, or stands behind it
  obtain ⟨w, hw⟩ : ∃ w, chain.behind = w ++ (literal ++ q' :: rest') := by
    rcases List.append_eq_append_iff.mp (hu.trans ht) with ⟨w, rfl, hw⟩ | ⟨w, rfl, hw⟩
    · cases w with
      | nil => exact ⟨[], (List.cons.inj hw).2.symm⟩
      | cons c w =>
        obtain ⟨rfl, -⟩ := List.cons.inj hw
        have hplain := hs q (by simp)
        rw [hq] at hplain
        contradiction
    · cases w with
      | nil => exact ⟨[], (List.cons.inj hw).2⟩
      | cons c w => exact ⟨w ++ [q], by simp [(List.cons.inj hw).2]⟩
  refine ⟨⟨w, q' :: rest', by rw [hw, List.append_assoc]⟩, q', by rw [hw]; simp, hq'⟩

/-! ## the forms on a chain -/

/-- A chain is no array: its word is followed by a parenthesis, or by the end of
the literal and of the call. -/
theorem find?_array : Form.array.find? chain.line = none := by
  refine Option.eq_none_iff_forall_ne_some.mpr fun literal h => ?_
  obtain ⟨s, ⟨before, hs⟩, hhere⟩ := exists_suffix_of_search h
  obtain ⟨front, q, t, t', -, rfl, hq, harrow, -⟩ := Form.exists_of_here?_array hhere
  rw [← List.append_assoc] at hs
  rcases chain.split_of_prefix hs.symm with ⟨-, hopens⟩ | ⟨-, u, hu, hcloses⟩
  · obtain ⟨rfl, -⟩ := List.cons.inj hopens
    exact absurd hq (by decide)
  · cases u with
    | nil =>
      obtain ⟨-, rfl⟩ := List.cons.inj hcloses
      have hnone : expect "=>".toList (trimStart chain.behind) = none := by
        rw [behind, trimStart_append_of_isBlank chain.right_blank,
          trimStart_cons_of_not_isBlank (by decide)]
        rfl
      rw [expectLoose, hnone, Option.map_none] at harrow
      cases harrow
    | cons c u =>
      obtain ⟨rfl, -⟩ := List.cons.inj hcloses
      rw [hu q (List.mem_cons_self ..)] at hq
      contradiction

/-- The prefix call is read. -/
theorem argument_argumentOn : argument chain.argumentOn = some (chain.literal, chain.rest) :=
  argument_eq_some chain.left_blank chain.right_blank chain.opening_quote chain.closing_quote
    chain.literal_ne_nil chain.literal_plain

/-- The argument of the call is the literal of the chain. -/
theorem prefixCall_argumentOn (name : List Char) :
    Form.prefixCall name (name ++ chain.argumentOn) = some (chain.literal, chain.rest) := by
  rw [Form.prefixCall, expect_eq_some_iff.mpr rfl]
  exact argument_argumentOn

/-- The form `chained` begins at no place of a text without the word. -/
theorem here?_chained_eq_none {lead s t : List Char} (h : ¬ "prefix".toList <:+: lead)
    (hne : t ≠ []) (ht : t <:+ lead) :
    Form.chained.here? (t ++ ("->prefix".toList ++ s)) = none := by
  refine Option.eq_none_iff_forall_ne_some.mpr fun literal hhere => ?_
  obtain ⟨⟨literal', rest⟩, hcall, -⟩ := Option.bind_eq_some_iff.mp hhere
  obtain ⟨u, hu, -⟩ := Form.exists_of_prefixCall hcall
  have hword : "->prefix".toList <+: t :=
    prefix_of_prefix_append_word (by decide) hne ⟨u, hu.symm⟩
  have hsuffix : "prefix".toList <:+ "->prefix".toList := by decide
  exact h (hsuffix.isInfix.trans (hword.isInfix.trans ht.isInfix))

/-- The chained form takes the literal at the call. -/
theorem here?_chained_argumentOn :
    Form.chained.here? ("->prefix".toList ++ chain.argumentOn) = some chain.literal := by
  obtain ⟨s, hs, hrest⟩ := chain.exists_rest_eq
  have harrow : expect "->".toList (trimStart chain.rest) =
      some (s ++ "group(function () \x7b".toList) := by
    rw [hrest]
    exact expect_eq_some_iff.mpr (trimStart_cons_of_not_isBlank (by decide) _)
  have hgroup := isSome_ahead_append (f := Form.groupCall "group".toList)
    (s := "group(function () \x7b".toList) hs (by decide)
  obtain ⟨u, hu⟩ := Option.isSome_iff_exists.mp hgroup
  simp only [Form.here?, prefixCall_argumentOn, harrow, Form.provided, hu, Option.bind_eq_bind,
    Option.bind_some, Option.map_some]

/-- A call in front of the prefix call ends in an arrow. -/
theorem exists_front_eq (h : chain.before ≠ []) : ∃ lead, chain.front = lead ++ "->".toList := by
  obtain ⟨calls, call, hbefore⟩ := (List.eq_nil_or_concat _).resolve_left h
  refine ⟨"Route::".toList ++ ((calls.flatMap fun call => call.text ++ "->".toList) ++ call.text),
    ?_⟩
  unfold front
  simp only [hbefore, List.concat_eq_append, List.flatMap_append, List.flatMap_singleton,
    List.append_assoc]

/-- **Behind other calls** the prefix call is read as one of a chain. -/
theorem find?_chained (h : chain.before ≠ []) :
    Form.chained.find? chain.line = some chain.literal := by
  obtain ⟨lead, hlead⟩ := exists_front_eq h
  have hline : chain.line = lead ++ ("->prefix".toList ++ chain.argumentOn) := by
    rw [line_eq, hlead, List.append_assoc]
    rfl
  have hfree : ¬ "prefix".toList <:+: lead := fun hword =>
    chain.not_prefix_infix_front (hword.trans (hlead ▸ (List.prefix_append lead _).isInfix))
  rw [Form.find?, hline, search_append_of_none fun t hne ht => here?_chained_eq_none hfree hne ht]
  exact search_of_eq_some here?_chained_argumentOn

/-- **In front of all other calls** the forms of chains read something else, if
anything. -/
theorem infix_behind_of_find? {form : Form} (h : chain.before = [])
    (hform : form ∈ [Form.chained, Form.fluent, Form.controller])
    (hfind : form.find? chain.line = some literal) :
    "prefix".toList <:+: chain.literal ∧ literal <:+: chain.behind ∧
      ∃ c ∈ chain.behind, isQuote c := by
  obtain ⟨s, ⟨before, hs⟩, hhere⟩ := exists_suffix_of_search hfind
  obtain ⟨front, t, rest, rfl, hargument, c, hc, hroute⟩ := Form.exists_of_here? hform hhere
  rw [← List.append_assoc] at hs
  rcases chain.split_of_prefix hs.symm with ⟨hfront, -⟩ | ⟨hword, u, hu, hcloses⟩
  · have hmem : c ∈ chain.front := by
      rw [← hfront]
      exact List.mem_append_right before hc
    rw [front_eq h] at hmem
    exact absurd hmem hroute
  · exact ⟨hword, infix_behind_of_argument hu hcloses hargument⟩

/-- If other calls follow, the group call does not. -/
theorem groupCall_rest (h : chain.after ≠ []) :
    Form.groupCall "->group".toList (trimStart chain.rest) = none := by
  obtain ⟨call, calls, hafter⟩ := List.exists_cons_of_ne_nil h
  obtain ⟨t, hrest⟩ : ∃ t, chain.rest = "->".toList ++ (call.name ++ '(' :: t) := by
    unfold rest
    rw [hafter, List.flatMap_cons, OtherCall.text]
    simp only [List.append_assoc, List.cons_append]
    exact ⟨_, rfl⟩
  have hstart : trimStart chain.rest = chain.rest := by
    rw [hrest]
    exact trimStart_cons_of_not_isBlank (by decide) _
  refine Option.eq_none_iff_forall_ne_some.mpr fun u hcall => ?_
  obtain ⟨v, hname, -⟩ := Option.bind_eq_some_iff.mp hcall
  have hgroup : "->".toList ++ ("group".toList ++ v) = "->".toList ++ (call.name ++ '(' :: t) := by
    rw [← hrest, ← hstart, expect_eq_some_iff.mp hname]
    rfl
  have hword : "group".toList <+: call.name :=
    prefix_of_prefix_append_cons (by decide) ⟨v, List.append_cancel_left hgroup⟩
  exact call.name_innocent.noGroup hword.isInfix

/-- A direct call in front of other calls reads something else, too: it would
have to go on to the group call at once. -/
theorem infix_behind_of_find?_direct (h : chain.after ≠ [])
    (hfind : Form.direct.find? chain.line = some literal) :
    "prefix".toList <:+: chain.literal ∧ literal <:+: chain.behind := by
  obtain ⟨s, ⟨before, hs⟩, hhere⟩ := exists_suffix_of_search hfind
  obtain ⟨t, rest, rfl, hargument, hgroup⟩ := Form.exists_of_here?_direct hhere
  rw [← List.append_assoc] at hs
  rcases chain.split_of_prefix hs.symm with ⟨-, rfl⟩ | ⟨hword, u, hu, hcloses⟩
  · rw [argument_argumentOn] at hargument
    cases hargument
    rw [groupCall_rest h] at hgroup
    contradiction
  · exact ⟨hword, (infix_behind_of_argument hu hcloses hargument).1⟩

theorem rest_eq (h : chain.after = []) : chain.rest = "->group(function () \x7b".toList := by
  unfold rest
  rw [h, List.flatMap_nil, List.nil_append]

/-- Without other calls there is nothing quoted behind the literal. -/
theorem not_mem_behind (h : chain.after = []) {c : Char} (hc : isQuote c) : c ∉ chain.behind := by
  have hquote : c ∉ ')' :: "->group(function () \x7b".toList := by
    rcases eq_or_eq_of_isQuote hc with rfl | rfl <;> decide
  intro hmem
  rw [behind, rest_eq h] at hmem
  rcases List.mem_append.mp hmem with hmem | hmem
  · have hblank := chain.right_blank c hmem
    rw [isBlank_eq_false_of_isQuote hc] at hblank
    exact absurd hblank Bool.false_ne_true
  · exact absurd hmem hquote

/-- With nothing in between, the prefix call is read directly. -/
theorem find?_direct (h : chain.before = []) (hafter : chain.after = []) :
    Form.direct.find? chain.line = some chain.literal := by
  have hgroup : (Form.groupCall "->group".toList (trimStart chain.rest)).isSome := by
    rw [rest_eq hafter]
    decide
  obtain ⟨u, hu⟩ := Option.isSome_iff_exists.mp hgroup
  have hcall : Form.prefixCall "Route::prefix".toList chain.line =
      some (chain.literal, chain.rest) := by
    rw [line_eq, front_eq h]
    exact prefixCall_argumentOn "Route::prefix".toList
  refine search_of_eq_some ?_
  simp only [Form.here?, hcall, hu, Option.bind_eq_bind, Option.bind_some, Option.pure_def]

/-- With nothing in between, the forms of chains read nothing. -/
theorem find?_eq_none {form : Form} (h : chain.before = []) (hafter : chain.after = [])
    (hform : form ∈ [Form.chained, Form.fluent, Form.controller]) :
    form.find? chain.line = none := by
  refine Option.eq_none_iff_forall_ne_some.mpr fun literal hfind => ?_
  obtain ⟨-, -, c, hc, hquote⟩ := infix_behind_of_find? h hform hfind
  exact not_mem_behind hafter hquote hc

/-- In front of all other calls, no form reads the literal: the word stands in
what is read, but not behind the literal. -/
theorem find?_ne (h : chain.before = []) (hafter : chain.after ≠ []) (form : Form) :
    form.find? chain.line ≠ some chain.literal := by
  intro hfind
  have hchain : form ∈ [Form.chained, Form.fluent, Form.controller] →
      "prefix".toList <:+: chain.literal ∧ chain.literal <:+: chain.behind := fun hform =>
    (infix_behind_of_find? h hform hfind).imp_right And.left
  have hbehind : "prefix".toList <:+: chain.literal ∧ chain.literal <:+: chain.behind := by
    cases form with
    | array =>
      rw [find?_array] at hfind
      contradiction
    | chained => exact hchain (by decide)
    | fluent => exact hchain (by decide)
    | controller => exact hchain (by decide)
    | direct => exact infix_behind_of_find?_direct hafter hfind
  exact chain.not_prefix_infix_behind (hbehind.1.trans hbehind.2)

/-- **The literal of a chain** is found behind other calls, and at the beginning
of a chain if the group call follows at once. -/
theorem finds_literal_iff :
    opening? Form.all chain.line = some chain.literal ↔ chain.before ≠ [] ∨ chain.after = [] := by
  constructor
  · intro h
    by_contra hnot
    obtain ⟨hbefore, hafter⟩ := not_or.mp hnot
    obtain ⟨form, -, hfind⟩ := List.exists_of_findSome?_eq_some h
    exact find?_ne (not_not.mp hbefore) hafter form hfind
  · intro h
    by_cases hbefore : chain.before = []
    · have hafter := h.resolve_left (not_not.mpr hbefore)
      have hchained : Form.chained.find? chain.line = none :=
        find?_eq_none hbefore hafter (by decide)
      have hfluent : Form.fluent.find? chain.line = none :=
        find?_eq_none hbefore hafter (by decide)
      have hcontroller : Form.controller.find? chain.line = none :=
        find?_eq_none hbefore hafter (by decide)
      simp only [opening?, Form.all, List.findSome?_cons, find?_array, hchained, hfluent,
        hcontroller, find?_direct hbefore hafter]
    · simp only [opening?, Form.all, List.findSome?_cons, find?_array, find?_chained hbefore]

/-- The prefix of a chain is lost if another call stands between the prefix call
and the group call, and found if the two are exchanged. -/
theorem prefix_lost_in_front_of_call :
    ∃ chain exchanged : Chain,
      chain.line = "Route::prefix('admin')->middleware('auth')->group(function () \x7b".toList ∧
      exchanged.line =
        "Route::middleware('auth')->prefix('admin')->group(function () \x7b".toList ∧
      chain.literal = "admin".toList ∧ exchanged.literal = "admin".toList ∧
      opening? Form.all chain.line = none ∧
      opening? Form.all exchanged.line = some "admin".toList := by
  let call : OtherCall := ⟨"middleware".toList, "'auth'".toList, by decide, by decide⟩
  let chain : Chain := ⟨[], [], '\'', "admin".toList, '\'', [], [call], List.forall_mem_nil _,
    by decide, by decide, by simp [isQuote], by decide, List.forall_mem_nil _⟩
  refine ⟨chain, { chain with before := [call], after := [] }, ?_⟩
  decide

end Chain

end RoutePaths.Group
