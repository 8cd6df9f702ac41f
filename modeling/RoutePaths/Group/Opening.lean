import RoutePaths.Text.Match
import RoutePaths.Text.Word

/-!
# RoutePaths.Group.Opening

Lines that open a group of routes with a common prefix.  Five forms of call
are known; each is looked for anywhere in the line, up to its end, and holds
the prefix as a quoted literal:

1. `array`: `Route::group` with an array that begins with the prefix;
2. `chained`: a prefix call in the middle of a chain that goes on to a group
   call, whatever the chain begins with;
3. `fluent`: a static call of any name whose chain has a prefix call and,
   later, a group call;
4. `controller`: the chain begins with a controller class and the prefix call
   follows at once;
5. `direct`: `Route::prefix` followed at once by the group call.

Only the call itself is matched, never its end, so the closure may stand on
any line.
-/

namespace RoutePaths.Group

open RoutePaths.Text

/-- A form of call that opens a group. -/
inductive Form where
  | array
  | chained
  | fluent
  | controller
  | direct
  deriving Repr, DecidableEq, Inhabited

namespace Form

/-- All forms, in the order in which they are tried. -/
def all : List Form := [array, chained, fluent, controller, direct]

/-- A group call: the rest of the text after its opening parenthesis. -/
def groupCall (name : List Char) (s : List Char) : Option (List Char) := do
  let s ← expect name s
  expect ['('] (trimStart s)

/-- The answer `literal`, provided that `later` succeeds further on in the line. -/
def provided (literal : List Char) (later : List Char → Option (List Char)) (s : List Char) :
    Option (List Char) :=
  (ahead later s).map fun _ => literal

/-- A quoted literal in parentheses after `name`, and the rest of the text. -/
def prefixCall (name : List Char) (s : List Char) : Option (List Char × List Char) := do
  let s ← expect name s
  argument s

/-- The prefix literal of a group opened in this form at the start of the text. -/
def here? : Form → List Char → Option (List Char)
  | array, s => do
    let s ← expect "Route::group".toList s
    let s ← expectLoose ['('] s
    let s ← expect ['['] s
    let s ← expectQuote (trimStart s)
    let s ← expect "prefix".toList s
    let s ← expectQuote s
    let s ← expectLoose "=>".toList s
    let (literal, _) ← quoted s
    return literal
  | chained, s => do
    let (literal, s) ← prefixCall "->prefix".toList s
    let s ← expect "->".toList (trimStart s)
    provided literal (groupCall "group".toList) s
  | fluent, s => do
    let s ← expect "Route::".toList s
    guard (0 < (s.takeWhile isWord).length)
    let s ← expect ['('] (trimStart (s.dropWhile isWord))
    ahead (fun s => do
      let s ← expect [')'] s
      let s ← expect "->".toList (trimStart s)
      ahead (fun s => do
        let (literal, s) ← prefixCall "prefix".toList s
        provided literal (groupCall "->group".toList) s) s) s
  | controller, s => do
    let s ← expect "Route::controller".toList s
    let s ← expect ['('] (trimStart s)
    ahead (fun s => do
      let s ← expect "::class)".toList s
      let (literal, s) ← prefixCall "->prefix".toList (trimStart s)
      provided literal (groupCall "->group".toList) s) s
  | direct, s => do
    let (literal, s) ← prefixCall "Route::prefix".toList s
    let _ ← groupCall "->group".toList (trimStart s)
    return literal

/-- The prefix literal of the leftmost group opened in this form. -/
def find? (form : Form) (line : List Char) : Option (List Char) := search form.here? line

end Form

/-- The prefix literal of a line that opens a group: the first of the given
forms that occurs in the line decides. -/
def opening? (forms : List Form) (line : List Char) : Option (List Char) :=
  forms.findSome? (·.find? line)

end RoutePaths.Group
