import RoutePaths.Proofs.Text.Match
import RoutePaths.Route.Call

/-!
# RoutePaths.Proofs.Route.Call

What a declaration says, it takes from its line (`Call.standsIn_of_find?`): the
method is a spelling of a verb, in upper case, and the path is a literal of the
line.
-/

namespace RoutePaths.Call

variable {call : Call} {line : List Char}

/-- The line spells the verb of the declaration, and the path. -/
structure StandsIn (call : Call) (line : List Char) : Prop where
  verb : ∃ verb ∈ verbs, ∃ spelling, spelling <:+: line ∧
    List.Forall₂ (fun p c => Text.foldsTo p c) verb spelling ∧
    call.method = spelling.map Text.upperChar
  path : call.path <:+: line

theorem standsIn_of_here? (h : here? line = some call) : call.StandsIn line := by
  simp only [here?, Option.bind_eq_bind, Option.bind_eq_some_iff] at h
  obtain ⟨⟨route, s₁⟩, hroute, ⟨spelling, s₂⟩, hverb, s₃, hopens, ⟨path, s₄⟩, hquoted, hpure⟩ := h
  cases hpure
  obtain ⟨verb, hmem, hspelling⟩ := List.exists_of_findSome?_eq_some hverb
  obtain ⟨hline, -⟩ := Text.expectFolded_eq_some_iff.mp hroute
  obtain ⟨hs₁, hletters⟩ := Text.expectFolded_eq_some_iff.mp hspelling
  have h₁ : s₁ <:+ line := ⟨route, hline.symm⟩
  have h₂ : s₂ <:+ s₁ := ⟨spelling, hs₁.symm⟩
  have h₃ : s₃ <:+ s₂ := Text.suffix_of_expectLoose hopens
  have hfront : spelling <+: s₁ := ⟨s₂, hs₁.symm⟩
  exact {
    verb := ⟨verb, hmem, spelling, hfront.isInfix.trans h₁.isInfix, hletters, rfl⟩
    path := (Text.infix_of_quoted hquoted).trans (h₃.trans (h₂.trans h₁)).isInfix }

/-- **A declaration stands in its line.** -/
theorem standsIn_of_find? (h : find? line = some call) : call.StandsIn line := by
  obtain ⟨s, hs, hhere⟩ := Text.exists_suffix_of_search h
  obtain ⟨⟨verb, hverb, spelling, hstands, hspelling⟩, hpath⟩ := standsIn_of_here? hhere
  exact ⟨⟨verb, hverb, spelling, hstands.trans hs.isInfix, hspelling⟩, hpath.trans hs.isInfix⟩

end RoutePaths.Call
