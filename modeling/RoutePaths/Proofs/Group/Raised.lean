import RoutePaths.Proofs.Group.Scan

/-!
# RoutePaths.Proofs.Group.Raised

A scan compares depths with one another and with nothing else, so it does not
matter at which depth it begins: from a state whose depths are all raised by
the same amount, or lowered, it goes through the same states, raised in the
same way (`states_raised`).  Behind lines that leave no group open, a text is
therefore scanned as if it stood alone, however many braces these lines leave
open or have closed without need (`linePrefixes_append`).
-/

namespace RoutePaths.Group

variable {forms : List Form}

/-- The scope with its depth raised by `n`. -/
def Scope.raised (n : Int) (scope : Scope) : Scope := { scope with depth := scope.depth + n }

/-- Raising scopes leaves their paths. -/
@[simp] theorem topPath_map_raised (n : Int) (scopes : List Scope) :
    topPath (scopes.map (Scope.raised n)) = topPath scopes := by
  cases scopes <;> rfl

/-- Raised scopes close at raised depths. -/
theorem closeBelow_map_raised (n depth : Int) (scopes : List Scope) :
    closeBelow (depth + n) (scopes.map (Scope.raised n)) =
      (closeBelow depth scopes).map (Scope.raised n) := by
  have hcloses : (fun scope : Scope => decide (depth + n < scope.depth)) ∘ Scope.raised n =
      fun scope => decide (depth < scope.depth) := by
    funext scope
    simp [Scope.raised]
  rw [closeBelow, List.dropWhile_map, hcloses]
  rfl

namespace Scan

/-- The state with all its depths raised by `n`. -/
def raised (n : Int) (scan : Scan) : Scan := ⟨scan.scopes.map (Scope.raised n), scan.depth + n⟩

@[simp] theorem depth_raised (n : Int) (scan : Scan) : (scan.raised n).depth = scan.depth + n := rfl

@[simp] theorem path_raised (n : Int) (scan : Scan) : (scan.raised n).path = scan.path :=
  topPath_map_raised n scan.scopes

/-- A scope is opened in a raised scan as in the other one, only deeper. -/
theorem opened_raised (n : Int) (scan : Scan) (literal : Option (List Char)) (depth : Int) :
    (scan.raised n).opened literal (depth + n) =
      (scan.opened literal depth).map (Scope.raised n) := by
  cases literal with
  | none => rfl
  | some literal => simp [raised, Scope.nested, Scope.raised]

/-- **A line does not tell at which depth it stands.** -/
theorem step_raised (n : Int) (scan : Scan) (line : List Char) :
    (scan.raised n).step forms line = (scan.step forms line).raised n := by
  have hdepth : (scan.raised n).depth + braceBalance line = scan.depth + braceBalance line + n := by
    rw [depth_raised]
    omega
  rw [step_eq, hdepth, opened_raised, closeBelow_map_raised, step_eq, raised]

/-- A raised scan goes through the raised states. -/
theorem states_raised (n : Int) (scan : Scan) (ls : List (List Char)) :
    states forms (scan.raised n) ls = (states forms scan ls).map (raised n) := by
  induction ls generalizing scan with
  | nil => rfl
  | cons line ls ih => simp only [states, step_raised, ih, List.map_cons]

/-- A state without open groups is the initial one at another depth. -/
theorem eq_raised_of_scopes_eq_nil {scan : Scan} (h : scan.scopes = []) :
    scan = raised scan.depth {} := by
  obtain ⟨scopes, depth⟩ := scan
  cases h
  simp [raised]

end Scan

/-- **Behind lines that leave no group open** a text has the prefixes that it has
alone. -/
theorem linePrefixes_append {a : String} (b : String)
    (hclosed : (Scan.run forms {} (Text.lines a)).scopes = []) :
    linePrefixes forms (a ++ "\n" ++ b) = linePrefixes forms a ++ linePrefixes forms b := by
  rw [linePrefixes, Text.lines_append, Scan.states_append, List.map_append,
    Scan.eq_raised_of_scopes_eq_nil hclosed, Scan.states_raised, List.map_map]
  congr 2
  funext scan
  exact Scan.path_raised _ scan

end RoutePaths.Group
