import RoutePaths.Group.Opening
import RoutePaths.Log
import RoutePaths.Text.Split
import RoutePaths.UrlPath.Basic

/-!
# RoutePaths.Group.Scan

Which groups are open on which line, from braces alone:

1. the depth after a line is the number of opening braces so far less the
   number of closing ones, wherever they stand, and may be negative;
2. a line that opens a group puts a scope on the stack, at the depth after the
   line, with its literal nested in the prefix of the scope on top;
3. scopes on top of the stack close as long as the depth after the line is
   below theirs, the new one included;
4. the prefix of a line is that of the scope on top after the line, and empty
   if no scope is open.
-/

namespace RoutePaths.Group

/-- An open group. -/
structure Scope where
  /-- The prefix literal of the group. -/
  literal : List Char
  /-- The prefix with those of the groups around it. -/
  path : List Char
  /-- The depth after the line that opened the group. -/
  depth : Int
  deriving Repr, DecidableEq, Inhabited

/-- The prefix in force under a stack of scopes, innermost first. -/
def topPath : List Scope → List Char
  | [] => []
  | scope :: _ => scope.path

/-- The state of the scan between two lines. -/
structure Scan where
  /-- The open scopes, innermost first. -/
  scopes : List Scope := []
  /-- The opening braces so far less the closing ones. -/
  depth : Int := 0
  deriving Repr, DecidableEq, Inhabited

/-- The opening braces of a line less its closing ones. -/
def braceBalance (line : List Char) : Int := (line.count '{' : Int) - (line.count '}' : Int)

/-- The scope opened by a literal inside the given scopes. -/
def Scope.nested (scopes : List Scope) (literal : List Char) (depth : Int) : Scope :=
  ⟨literal, UrlPath.nest (topPath scopes) literal, depth⟩

/-- The scopes left open at a depth. -/
def closeBelow (depth : Int) (scopes : List Scope) : List Scope :=
  scopes.dropWhile (depth < ·.depth)

namespace Scan

/-- The prefix in force. -/
def path (scan : Scan) : List Char := topPath scan.scopes

/-- The scopes after the opening of a line is taken into account, but before
any is closed. -/
def opened (scan : Scan) (capture : Option (List Char)) (depth : Int) : List Scope :=
  match capture with
  | none => scan.scopes
  | some literal => .nested scan.scopes literal depth :: scan.scopes

/-- The state after one more line. -/
def step (forms : List Form) (scan : Scan) (line : List Char) : Scan :=
  let depth := scan.depth + braceBalance line
  ⟨closeBelow depth (scan.opened (opening? forms (Text.trim line)) depth), depth⟩

/-- The state after each of the lines. -/
def states (forms : List Form) : Scan → List (List Char) → List Scan
  | _, [] => []
  | scan, line :: rest => scan.step forms line :: states forms (scan.step forms line) rest

/-- The state after all of the lines. -/
def run (forms : List Form) (scan : Scan) (ls : List (List Char)) : Scan :=
  ls.foldl (step forms) scan

/-- What the log says of a scan that ends with braces or groups left open. -/
def imbalance? (scan : Scan) : Option LogRecord :=
  if scan.depth ≠ 0 ∨ scan.scopes ≠ [] then
    some {
      level := .debug
      message := "Unbalanced scan: final depth " ++ toString scan.depth ++ ", "
        ++ toString scan.scopes.length ++ " open group(s)" }
  else none

end Scan

/-- The prefix in force on each line of a text. -/
def linePrefixes (forms : List Form) (text : String) : List (List Char) :=
  (Scan.states forms {} (Text.lines text)).map Scan.path

end RoutePaths.Group
