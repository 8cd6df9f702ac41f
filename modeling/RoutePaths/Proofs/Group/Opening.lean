import Mathlib.Data.List.Infix
import RoutePaths.Proofs.Group.Scan
import RoutePaths.Proofs.Text.Match

/-!
# RoutePaths.Proofs.Group.Opening

Where the literal of a group comes from.  The five forms look for it in
different ways, but all of them look for the word `prefix` first and read the
literal behind it: in an array behind a double arrow
(`Form.exists_of_here?_array`), in a chain of calls as the argument of a call
(`Form.exists_of_here?`, `Form.exists_of_here?_direct`).  It is a quoted literal
that stands in the line (`exists_suffix_of_opening?`), so it is never empty.
All forms begin with one of two characters, so what stands in front of a call
without these is as good as blank (`literal?_append_of_inert`).
-/

namespace RoutePaths.Group

open Text

/-! ## what the forms read -/

namespace Form

variable {s literal : List Char}

/-- What is provided is the literal, whatever is found later. -/
theorem eq_of_provided {a : List Char} {later : List Char → Option (List Char)}
    (h : provided literal later s = some a) : a = literal := by
  obtain ⟨-, -, rfl⟩ := Option.map_eq_some_iff.mp h
  rfl

/-- An array has its prefix behind the quoted word and a double arrow. -/
theorem exists_of_here?_array (h : here? array s = some literal) :
    ∃ front q rest t rest', s = front ++ ("prefix".toList ++ q :: rest) ∧ isQuote q ∧
      expectLoose "=>".toList rest = some t ∧ quoted t = some (literal, rest') := by
  simp only [here?, Option.bind_eq_bind, Option.bind_eq_some_iff] at h
  obtain ⟨s₁, h₁, s₂, h₂, s₃, h₃, s₄, h₄, s₅, h₅, s₆, h₆, t, h₇, ⟨literal', rest'⟩, hquoted,
    hpure⟩ := h
  cases hpure
  obtain ⟨q, hq, rfl⟩ := expectQuote_eq_some_iff.mp h₆
  have hsuffix : s₄ <:+ s := by
    calc s₄ <:+ s₃ := (suffix_of_expectQuote h₄).trans (trimStart_suffix s₃)
      _ <:+ s₂ := suffix_of_expect h₃
      _ <:+ s₁ := suffix_of_expectLoose h₂
      _ <:+ s := suffix_of_expect h₁
  obtain ⟨front, rfl⟩ := hsuffix
  exact ⟨front, q, s₆, t, rest', by rw [expect_eq_some_iff.mp h₅], hq, h₇, hquoted⟩

/-- A prefix call is its name and an argument. -/
theorem exists_of_prefixCall {name rest : List Char}
    (h : prefixCall name s = some (literal, rest)) :
    ∃ t, s = name ++ t ∧ argument t = some (literal, rest) := by
  obtain ⟨t, hname, hargument⟩ := Option.bind_eq_some_iff.mp h
  exact ⟨t, expect_eq_some_iff.mp hname, hargument⟩

/-- A prefix call reads its literal behind the word, and behind what stands in
front of the word in the name. -/
theorem exists_of_prefixCall_suffix (lead : List Char) {t rest : List Char} (ht : t <:+ s)
    (h : prefixCall (lead ++ "prefix".toList) t = some (literal, rest)) :
    ∃ front t', s = front ++ lead ++ ("prefix".toList ++ t') ∧
      argument t' = some (literal, rest) := by
  obtain ⟨front, rfl⟩ := ht
  obtain ⟨t', rfl, hargument⟩ := exists_of_prefixCall h
  exact ⟨front, t', by simp, hargument⟩

/-- What the form `controller` reads: a class in parentheses, and a prefix call
behind it. -/
theorem exists_of_here?_controller (h : here? controller s = some literal) :
    ∃ t args u v rest, s = "Route::".toList ++ ("controller".toList ++ t) ∧
      trimStart t = '(' :: (args ++ ("::class".toList ++ ')' :: u)) ∧ '\n' ∉ args ∧
      trimStart u = "->".toList ++ ("prefix".toList ++ v) ∧ argument v = some (literal, rest) ∧
      (ahead (groupCall "->group".toList) rest).isSome := by
  obtain ⟨t, hroute, h⟩ := Option.bind_eq_some_iff.mp h
  obtain ⟨t', hopens, h⟩ := Option.bind_eq_some_iff.mp h
  obtain ⟨args, t'', rfl, hargs, h⟩ := exists_append_of_ahead h
  obtain ⟨u, hclass, h⟩ := Option.bind_eq_some_iff.mp h
  obtain ⟨⟨literal', rest⟩, hcall, h⟩ := Option.bind_eq_some_iff.mp h
  cases eq_of_provided h
  obtain ⟨v, hu, hargument⟩ := exists_of_prefixCall hcall
  have hs : s = "Route::controller".toList ++ t := expect_eq_some_iff.mp hroute
  refine ⟨t, args, u, v, rest, hs, ?_, hargs, hu, hargument, ?_⟩
  · rw [expect_eq_some_iff.mp hopens, expect_eq_some_iff.mp hclass]
    rfl
  · obtain ⟨w, hw, -⟩ := Option.map_eq_some_iff.mp h
    rw [hw]
    rfl

/-- **The forms of chains** read an argument behind the word `prefix`, which is
not the first call of the chain. -/
theorem exists_of_here? {form : Form} (hform : form ∈ [chained, fluent, controller])
    (h : form.here? s = some literal) :
    ∃ front t rest, s = front ++ ("prefix".toList ++ t) ∧ argument t = some (literal, rest) ∧
      ∃ c ∈ front, c ∉ "Route::".toList := by
  have harrow : ∀ front t : List Char, ∀ {rest},
      s = front ++ "->".toList ++ ("prefix".toList ++ t) →
      argument t = some (literal, rest) →
      ∃ front t rest, s = front ++ ("prefix".toList ++ t) ∧ argument t = some (literal, rest) ∧
        ∃ c ∈ front, c ∉ "Route::".toList := fun front t _ hs hargument =>
    ⟨front ++ "->".toList, t, _, hs, hargument, '-', by simp, by decide⟩
  cases form with
  | array => simp at hform
  | direct => simp at hform
  | chained =>
    simp only [here?, Option.bind_eq_bind, Option.bind_eq_some_iff] at h
    obtain ⟨⟨literal', rest⟩, hcall, t, -, h⟩ := h
    cases eq_of_provided h
    obtain ⟨front, t', hs, hargument⟩ := exists_of_prefixCall_suffix "->".toList List.suffix_rfl
      hcall
    exact harrow front t' hs hargument
  | fluent =>
    obtain ⟨s₁, h₁, h⟩ := Option.bind_eq_some_iff.mp h
    obtain ⟨-, -, h⟩ := Option.bind_eq_some_iff.mp h
    obtain ⟨s₂, h₂, h⟩ := Option.bind_eq_some_iff.mp h
    obtain ⟨s₃, h₃, h⟩ := exists_suffix_of_ahead h
    obtain ⟨s₄, h₄, h⟩ := Option.bind_eq_some_iff.mp h
    obtain ⟨s₅, h₅, h⟩ := Option.bind_eq_some_iff.mp h
    obtain ⟨s₆, h₆, h⟩ := exists_suffix_of_ahead h
    obtain ⟨⟨literal', rest⟩, hcall, h⟩ := Option.bind_eq_some_iff.mp h
    cases eq_of_provided h
    have hsuffix : s₆ <:+ s₂ := by
      calc s₆ <:+ s₅ := h₆
        _ <:+ s₄ := suffix_of_expect_trimStart h₅
        _ <:+ s₃ := suffix_of_expect h₄
        _ <:+ s₂ := h₃
    have hopens : '(' :: s₂ <:+ s := by
      calc '(' :: s₂ = trimStart (s₁.dropWhile isWord) := (expect_eq_some_iff.mp h₂).symm
        _ <:+ s₁.dropWhile isWord := trimStart_suffix _
        _ <:+ s₁ := List.dropWhile_suffix _
        _ <:+ s := suffix_of_expect h₁
    obtain ⟨front, t', hs₂, hargument⟩ := exists_of_prefixCall_suffix [] hsuffix hcall
    obtain ⟨front', rfl⟩ := hopens
    exact ⟨front' ++ '(' :: front, t', rest, by simp [hs₂], hargument, '(', by simp, by decide⟩
  | controller =>
    obtain ⟨t, args, u, v, rest, rfl, ht, -, hu, hargument, -⟩ := exists_of_here?_controller h
    have hsuffix : trimStart u <:+ "Route::".toList ++ ("controller".toList ++ t) := by
      calc trimStart u <:+ u := trimStart_suffix u
        _ <:+ '(' :: (args ++ ("::class".toList ++ ')' :: u)) :=
          ⟨'(' :: args ++ "::class)".toList, by simp⟩
        _ <:+ t := ht ▸ trimStart_suffix t
        _ <:+ "Route::".toList ++ ("controller".toList ++ t) :=
          (List.suffix_append _ t).trans (List.suffix_append _ _)
    obtain ⟨front, hfront⟩ := hsuffix
    exact harrow front v (by rw [← hfront, hu, List.append_assoc]) hargument

/-- A direct prefix call goes on to the group call at once. -/
theorem exists_of_here?_direct (h : here? direct s = some literal) :
    ∃ t rest, s = "Route::".toList ++ ("prefix".toList ++ t) ∧
      argument t = some (literal, rest) ∧
      (groupCall "->group".toList (trimStart rest)).isSome := by
  simp only [here?, Option.bind_eq_bind, Option.bind_eq_some_iff] at h
  obtain ⟨⟨literal', rest⟩, hcall, t', hgroup, hpure⟩ := h
  cases hpure
  obtain ⟨t, hs, hargument⟩ := exists_of_prefixCall hcall
  exact ⟨t, rest, hs, hargument, by rw [hgroup]; rfl⟩

/-- Every form reads its literal between quotes. -/
theorem exists_suffix_of_here? {form : Form} (h : form.here? s = some literal) :
    ∃ t rest, t <:+ s ∧ quoted t = some (literal, rest) := by
  have hcall : ∀ {front t rest : List Char}, s = front ++ ("prefix".toList ++ t) →
      argument t = some (literal, rest) → ∃ t rest, t <:+ s ∧ quoted t = some (literal, rest) := by
    rintro front t _ rfl hargument
    obtain ⟨t', rest, ht', hquoted⟩ := exists_suffix_of_argument hargument
    have hsuffix : t <:+ front ++ ("prefix".toList ++ t) :=
      (List.suffix_append _ t).trans (List.suffix_append front _)
    exact ⟨t', rest, ht'.trans hsuffix, hquoted⟩
  have hchain : form ∈ [chained, fluent, controller] →
      ∃ t rest, t <:+ s ∧ quoted t = some (literal, rest) := fun hform => by
    obtain ⟨front, t, rest, hs, hargument, -⟩ := exists_of_here? hform h
    exact hcall hs hargument
  cases form with
  | array =>
    obtain ⟨front, q, t, t', rest, rfl, -, harrow, hquoted⟩ := exists_of_here?_array h
    refine ⟨t', rest, ?_, hquoted⟩
    calc t' <:+ t := suffix_of_expectLoose harrow
      _ <:+ q :: t := List.suffix_cons q t
      _ <:+ "prefix".toList ++ q :: t := List.suffix_append _ _
      _ <:+ front ++ ("prefix".toList ++ q :: t) := List.suffix_append front _
  | chained => exact hchain (by decide)
  | fluent => exact hchain (by decide)
  | controller => exact hchain (by decide)
  | direct =>
    obtain ⟨t, rest, hs, hargument, -⟩ := exists_of_here?_direct h
    exact hcall hs hargument

end Form

/-- **The literal of a group is a quoted one.** -/
theorem exists_suffix_of_opening? {forms : List Form} {line literal : List Char}
    (h : opening? forms line = some literal) :
    ∃ t rest, t <:+ line ∧ quoted t = some (literal, rest) := by
  obtain ⟨form, -, hform⟩ := List.exists_of_findSome?_eq_some h
  obtain ⟨s, hs, hhere⟩ := exists_suffix_of_search hform
  obtain ⟨t, rest, ht, hquoted⟩ := Form.exists_suffix_of_here? hhere
  exact ⟨t, rest, ht.trans hs, hquoted⟩

/-- The literal of a line stands in quotes somewhere. -/
theorem exists_quoted_of_literalAt? {forms : List Form} {ls : List (List Char)} {j : Nat}
    {literal : List Char} (h : literalAt? forms ls j = some literal) :
    ∃ t rest, quoted t = some (literal, rest) := by
  obtain ⟨line, -, hopening⟩ := Option.bind_eq_some_iff.mp h
  obtain ⟨t, rest, -, hquoted⟩ := exists_suffix_of_opening? hopening
  exact ⟨t, rest, hquoted⟩

/-! ## what stands in front of a call -/

/-- A character that no form begins with. -/
def IsInert (c : Char) : Prop := c ≠ 'R' ∧ c ≠ '-'

/-- Blanks open nothing. -/
theorem isInert_of_isBlank {c : Char} (h : isBlank c) : IsInert c := by
  constructor <;> rintro rfl <;> revert h <;> decide

/-- No form begins with an inert character. -/
theorem Form.here?_cons_of_isInert (form : Form) {c : Char} (hc : IsInert c) (s : List Char) :
    form.here? (c :: s) = none := by
  have hroute : ∀ word, expect ('R' :: word) (c :: s) = none := fun _ => if_neg hc.1
  have harrow : ∀ word, expect ('-' :: word) (c :: s) = none := fun _ => if_neg hc.2
  cases form with
  | array => exact congrArg (Option.bind · _) (hroute _)
  | chained =>
    have hcall : prefixCall "->prefix".toList (c :: s) = none :=
      congrArg (Option.bind · _) (harrow _)
    exact congrArg (Option.bind · _) hcall
  | fluent => exact congrArg (Option.bind · _) (hroute _)
  | controller => exact congrArg (Option.bind · _) (hroute _)
  | direct =>
    have hcall : prefixCall "Route::prefix".toList (c :: s) = none :=
      congrArg (Option.bind · _) (hroute _)
    exact congrArg (Option.bind · _) hcall

/-- Inert characters in front open nothing and hide nothing. -/
theorem opening?_append_of_inert (forms : List Form) {front : List Char}
    (h : ∀ c ∈ front, IsInert c) (s : List Char) :
    opening? forms (front ++ s) = opening? forms s := by
  have hform : ∀ form : Form, form.find? (front ++ s) = form.find? s := fun form =>
    search_append_of_forall_none (fun c hc => form.here?_cons_of_isInert (h c hc)) s
  rw [opening?, opening?]
  congr 1
  funext form
  exact hform form

/-- Leading blanks need not be left aside. -/
theorem literal?_eq_opening?_trimEnd (forms : List Form) (line : List Char) :
    literal? forms line = opening? forms (trimEnd line) := by
  have hblank : ∀ c ∈ line.takeWhile isBlank, IsInert c := fun c hc =>
    isInert_of_isBlank (List.all_eq_true.mp List.all_takeWhile c hc)
  obtain ⟨front, hfront, heq⟩ := exists_trimEnd_append (line.takeWhile isBlank) (trimStart line)
  rw [trimStart, List.takeWhile_append_dropWhile] at heq
  rw [heq, opening?_append_of_inert forms fun c hc => hblank c (hfront hc)]
  rfl

/-- **A call is found behind anything inert.** -/
theorem literal?_append_of_inert (forms : List Form) {front : List Char}
    (h : ∀ c ∈ front, IsInert c) (line : List Char) :
    literal? forms (front ++ line) = literal? forms line := by
  obtain ⟨front', hfront, heq⟩ := exists_trimEnd_append front line
  rw [literal?_eq_opening?_trimEnd, heq, opening?_append_of_inert forms fun c hc => h c (hfront hc),
    literal?_eq_opening?_trimEnd]

/-- An empty line opens no group. -/
theorem literal?_nil (forms : List Form) : literal? forms [] = none := by
  have hform : ∀ form : Form, form.find? [] = none := by
    intro form
    cases form <;> rfl
  exact List.findSome?_eq_none_iff.mpr fun form _ => hform form

end RoutePaths.Group
