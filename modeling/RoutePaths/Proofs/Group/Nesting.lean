import RoutePaths.Proofs.Group.Scan
import RoutePaths.Proofs.Text.Lines

/-!
# RoutePaths.Proofs.Group.Nesting

Files in which braces match line by line.  Such a file is a list of nodes
(`Node`), each a line or a block, and a block has an opening line, nodes inside
and a closing line that closes as many braces as the opening line has opened.
A block whose opening line opens a group is the block of that group.

Nodes know which groups a line lies in (`Node.placed`): those of the blocks
around it, where the opening line of a block lies inside and the closing line
outside.  A scan gives every line the prefix of exactly these groups
(`linePrefixes_placed`), because a node leaves the state of the scan as it was
(`Passes`), whatever the depth and the stack before, provided that the scope on
top holds.
-/

namespace RoutePaths.Group

open Text (Line)

/-! ## nodes -/

/-- A part of a file in which braces match. -/
inductive Node (forms : List Form) where
  /-- A line that closes the braces it opens, and opens no group. -/
  | line (text : Line) (level : braceBalance text.chars = 0)
      (plain : literal? forms text.chars = none)
  /-- A block, which is that of a group if its opening line opens one. -/
  | block (opening : Line) (children : List (Node forms)) (closing : Line)
      (opens : 0 < braceBalance opening.chars)
      (closes : braceBalance closing.chars = -braceBalance opening.chars)
      (plain : literal? forms closing.chars = none)

/-- A line and the literals of the groups it lies in, outermost first. -/
structure Placed where
  line : Line
  groups : List (List Char)

namespace Placed

/-- The characters of the line. -/
def chars (p : Placed) : List Char := p.line.chars

/-- The prefix of the groups around the line. -/
def path (p : Placed) : List Char := p.groups.foldl UrlPath.nest []

end Placed

mutual

/-- The lines of a node inside the given groups. -/
def Node.placed {forms : List Form} (groups : List (List Char)) : Node forms → List Placed
  | .line text _ _ => [⟨text, groups⟩]
  | .block opening children closing _ _ _ =>
    let inside := groups ++ (literal? forms opening.chars).toList
    ⟨opening, inside⟩ :: Node.placedAll inside children ++ [⟨closing, groups⟩]

/-- The lines of nodes one after the other inside the given groups. -/
def Node.placedAll {forms : List Form} (groups : List (List Char)) :
    List (Node forms) → List Placed
  | [] => []
  | node :: nodes => node.placed groups ++ Node.placedAll groups nodes

end

/-! ## passing over lines -/

/-- A scan that goes from one state to another over the lines, and gives each
of them the prefix of the groups it lies in. -/
structure Passes (forms : List Form) (scan : Scan) (ps : List Placed) (scan' : Scan) : Prop where
  run_eq : Scan.run forms scan (ps.map Placed.chars) = scan'
  prefixes : (Scan.states forms scan (ps.map Placed.chars)).map Scan.path = ps.map Placed.path

section Passes

variable {forms : List Form} {scan scan' scan'' : Scan}

theorem Passes.nil : Passes forms scan [] scan := ⟨rfl, rfl⟩

/-- One line passes if the path after it is that of its groups. -/
theorem Passes.single {line : Line} {groups : List (List Char)}
    (h : (scan.step forms line.chars).path = groups.foldl UrlPath.nest []) :
    Passes forms scan [⟨line, groups⟩] (scan.step forms line.chars) where
  run_eq := rfl
  prefixes := by rw [List.map_singleton, List.map_singleton, Placed.path, ← h]; rfl

/-- Two rows of lines that pass, one behind the other, pass as one. -/
theorem Passes.append {ps qs : List Placed} (hp : Passes forms scan ps scan')
    (hq : Passes forms scan' qs scan'') : Passes forms scan (ps ++ qs) scan'' where
  run_eq := by rw [List.map_append, Scan.run_append, hp.run_eq, hq.run_eq]
  prefixes := by
    rw [List.map_append, Scan.states_append, List.map_append, hp.run_eq, hp.prefixes, hq.prefixes,
      List.map_append]

end Passes

/-! ## lines of nodes -/

section Step

variable {forms : List Form} {scan : Scan}

/-- A level line without a group changes nothing. -/
theorem step_level {line : List Char} (hholds : Holds scan.depth scan.scopes)
    (level : braceBalance line = 0) (plain : literal? forms line = none) :
    scan.step forms line = scan := by
  rw [Scan.step_eq, plain, Scan.opened_none, level, Int.add_zero, closeBelow_of_holds hholds]

/-- No scope closes on an opening line. -/
theorem step_opening {opening : List Char} (hholds : Holds scan.depth scan.scopes)
    (opens : 0 < braceBalance opening) :
    scan.step forms opening =
      ⟨scan.opened (literal? forms opening) (scan.depth + braceBalance opening),
        scan.depth + braceBalance opening⟩ := by
  rw [Scan.step_eq, closeBelow_of_holds]
  cases literal? forms opening with
  | none => exact hholds.mono (by omega)
  | some literal => simp [Scope.nested]

/-- The closing line closes the scope of the opening line and no other. -/
theorem step_closing {opening closing : List Char} (hholds : Holds scan.depth scan.scopes)
    (opens : 0 < braceBalance opening) (closes : braceBalance closing = -braceBalance opening)
    (plain : literal? forms closing = none) :
    (scan.step forms opening).step forms closing = scan := by
  have hdepth : scan.depth + braceBalance opening + braceBalance closing = scan.depth := by omega
  rw [step_opening hholds opens, Scan.step_eq, plain, Scan.opened_none, hdepth]
  congr 1
  cases literal? forms opening with
  | none => exact closeBelow_of_holds hholds
  | some literal =>
    rw [Scan.opened_some, ← List.singleton_append, closeBelow_append hholds]
    have hcloses : scan.depth < scan.depth + braceBalance opening := by omega
    simp [closeBelow, Scope.nested, hcloses]

/-- The prefix on the opening line, which lies inside. -/
theorem path_step_opening {opening : List Char} {groups : List (List Char)}
    (hholds : Holds scan.depth scan.scopes) (hpath : scan.path = groups.foldl UrlPath.nest [])
    (opens : 0 < braceBalance opening) :
    (scan.step forms opening).path =
      (groups ++ (literal? forms opening).toList).foldl UrlPath.nest [] := by
  rw [step_opening hholds opens, List.foldl_append, ← hpath]
  cases literal? forms opening with
  | none => rfl
  | some literal => rfl

end Step

mutual

/-- **A node leaves no trace**, wherever it stands. -/
theorem Node.passes {forms : List Form} {scan : Scan} {groups : List (List Char)}
    (hholds : Holds scan.depth scan.scopes) (hpath : scan.path = groups.foldl UrlPath.nest []) :
    (node : Node forms) → Passes forms scan (node.placed groups) scan
  | .line text level plain => by
    have hstep : scan.step forms text.chars = scan := step_level hholds level plain
    have hline : (scan.step forms text.chars).path = groups.foldl UrlPath.nest [] := by
      rw [hstep, hpath]
    have hsingle := Passes.single hline
    rwa [hstep] at hsingle
  | .block opening children closing opens closes plain => by
    have hopening : (scan.step forms opening.chars).path =
        (groups ++ (literal? forms opening.chars).toList).foldl UrlPath.nest [] :=
      path_step_opening hholds hpath opens
    have hinner := Node.passesAll (Scan.holds_step scan opening.chars) hopening children
    have hclosing : (scan.step forms opening.chars).step forms closing.chars = scan :=
      step_closing hholds opens closes plain
    have hlast : ((scan.step forms opening.chars).step forms closing.chars).path =
        groups.foldl UrlPath.nest [] := by
      rw [hclosing, hpath]
    have hblock := ((Passes.single hopening).append hinner).append (Passes.single hlast)
    rwa [hclosing] at hblock

/-- Nodes one after the other leave no trace either. -/
theorem Node.passesAll {forms : List Form} {scan : Scan} {groups : List (List Char)}
    (hholds : Holds scan.depth scan.scopes) (hpath : scan.path = groups.foldl UrlPath.nest []) :
    (nodes : List (Node forms)) → Passes forms scan (Node.placedAll groups nodes) scan
  | [] => .nil
  | node :: nodes => (node.passes hholds hpath).append (Node.passesAll hholds hpath nodes)

end

/-! ## whole files -/

/-- A node has a line. -/
theorem Node.placed_ne_nil {forms : List Form} (groups : List (List Char)) (node : Node forms) :
    node.placed groups ≠ [] := by
  cases node <;> simp [Node.placed]

/-- **Nesting**: in a file of nodes every line has the prefix of exactly the
groups it lies in. -/
theorem linePrefixes_placed (forms : List Form) (node : Node forms) (nodes : List (Node forms)) :
    linePrefixes forms (Text.textOf ((Node.placedAll [] (node :: nodes)).map Placed.line)) =
      (Node.placedAll [] (node :: nodes)).map (·.groups.foldl UrlPath.nest []) := by
  have hne : (Node.placedAll [] (node :: nodes)).map Placed.line ≠ [] := by
    rw [Node.placedAll]
    simp [Node.placed_ne_nil]
  have hpasses : Passes forms {} (Node.placedAll [] (node :: nodes)) {} :=
    Node.passesAll (holds_nil _) rfl (node :: nodes)
  rw [linePrefixes, Text.lines_textOf hne, List.map_map]
  exact hpasses.prefixes

/-- A group inside another, in braces that are doubled, and a line behind them. -/
theorem linePrefixes_placed_nested :
    let inner : Node Form.all :=
      .block ⟨"Route::prefix('v1')->group(f\x7b\x7b".toList, by decide⟩
        [.line ⟨"Route::get('/a', f);".toList, by decide⟩ (by decide) (by decide)]
        ⟨"\x7d\x7d".toList, by decide⟩ (by decide) (by decide) (by decide)
    let outer : Node Form.all :=
      .block ⟨"Route::prefix('api')->group(f\x7b".toList, by decide⟩ [inner]
        ⟨"\x7d);".toList, by decide⟩ (by decide) (by decide) (by decide)
    let behind : Node Form.all :=
      .line ⟨"Route::get('/b', f);".toList, by decide⟩ (by decide) (by decide)
    let text := "Route::prefix('api')->group(f\x7b\nRoute::prefix('v1')->group(f\x7b\x7b\n" ++
      "Route::get('/a', f);\n\x7d\x7d\n\x7d);\nRoute::get('/b', f);"
    Text.textOf ((Node.placedAll [] [outer, behind]).map Placed.line) = text ∧
      linePrefixes Form.all text =
        ["api".toList, "api/v1".toList, "api/v1".toList, "api".toList, [], []] := by
  intro inner outer behind text
  have htext : Text.textOf ((Node.placedAll [] [outer, behind]).map Placed.line) = text := by
    decide
  have hprefixes := linePrefixes_placed Form.all outer [behind]
  rw [htext] at hprefixes
  exact ⟨htext, hprefixes.trans (by decide)⟩

end RoutePaths.Group
