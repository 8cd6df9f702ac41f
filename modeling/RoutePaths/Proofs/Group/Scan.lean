import Mathlib.Data.List.Forall2
import RoutePaths.Group.Scan
import RoutePaths.Proofs.Text.Lines

/-!
# RoutePaths.Proofs.Group.Scan

How the state of a scan goes from line to line:

* the depth is a sum over all characters read (`run_depth`);
* the state after a line is the run over the lines up to it (`states_eq_map`);
* after every line the scope on top is at or below the depth (`Holds`); the
  scopes under it may be deeper, but a stack that holds shields all that is
  under it from `closeBelow`;
* a scope is opened inside the stack of its moment and closed from the top
  only, so the prefix in force is that of the literals of all open scopes, one
  nested in the other (`path_run_eq_foldl`).
-/

namespace RoutePaths.Group

/-! ## depth -/

@[simp] theorem braceBalance_nil : braceBalance [] = 0 := rfl

@[simp] theorem braceBalance_append (a b : List Char) :
    braceBalance (a ++ b) = braceBalance a + braceBalance b := by
  simp only [braceBalance, List.count_append]
  omega

/-! ## stacks at a depth -/

/-- The scope on top of the stack, if there is one, stays open at the depth. -/
def Holds (depth : Int) (scopes : List Scope) : Prop :=
  ∀ scope ∈ scopes.head?, scope.depth ≤ depth

@[simp] theorem holds_nil (depth : Int) : Holds depth [] := by
  intro scope h
  contradiction

@[simp] theorem holds_cons {depth : Int} {scope : Scope} {scopes : List Scope} :
    Holds depth (scope :: scopes) ↔ scope.depth ≤ depth := by
  simp [Holds]

/-- A stack that holds at a depth holds at every greater one. -/
theorem Holds.mono {d d' : Int} {scopes : List Scope} (h : Holds d scopes) (hle : d ≤ d') :
    Holds d' scopes :=
  fun scope hs => Int.le_trans (h scope hs) hle

/-- Closing down to a depth leaves a stack that holds there. -/
theorem holds_closeBelow (depth : Int) (scopes : List Scope) :
    Holds depth (closeBelow depth scopes) := by
  intro scope h
  have htop := List.head?_dropWhile_not (depth < ·.depth) scopes
  rw [closeBelow, Option.mem_def] at h
  rw [h] at htop
  simpa using htop

/-- The scope on top is closed if it is deeper, and then what is under it is looked at. -/
theorem closeBelow_cons (depth : Int) (scope : Scope) (scopes : List Scope) :
    closeBelow depth (scope :: scopes) =
      if depth < scope.depth then closeBelow depth scopes else scope :: scopes := by
  simp [closeBelow, List.dropWhile_cons]

/-- A stack that holds is not touched, whatever closes above it. -/
theorem closeBelow_append {depth : Int} {below : List Scope} (h : Holds depth below)
    (above : List Scope) : closeBelow depth (above ++ below) = closeBelow depth above ++ below := by
  induction above with
  | nil =>
    cases below with
    | nil => rfl
    | cons scope below =>
      rw [holds_cons] at h
      simp [closeBelow, Int.not_lt.mpr h]
  | cons scope above ih =>
    rw [List.cons_append, closeBelow_cons, closeBelow_cons]
    split
    · exact ih
    · rfl

/-- A stack that holds at a depth has nothing to close there. -/
theorem closeBelow_of_holds {depth : Int} {scopes : List Scope} (h : Holds depth scopes) :
    closeBelow depth scopes = scopes :=
  closeBelow_append h []

/-! ## steps and runs -/

/-- The literal of the group that a line opens, its blanks left aside. -/
def literal? (forms : List Form) (line : List Char) : Option (List Char) :=
  opening? forms (Text.trim line)

/-- The literal of the group that line `i` opens. -/
def literalAt? (forms : List Form) (ls : List (List Char)) (i : Nat) : Option (List Char) :=
  ls[i]?.bind (literal? forms)

/-- The opening braces in the lines up to line `i`, less the closing ones. -/
def depthAt (ls : List (List Char)) (i : Nat) : Int := braceBalance (ls.take (i + 1)).flatten

/-- Only lines of the text have a literal. -/
theorem lt_length_of_literalAt? {forms : List Form} {ls : List (List Char)} {i : Nat}
    (h : (literalAt? forms ls i).isSome) : i < ls.length := by
  refine Nat.lt_of_not_le fun hle => ?_
  rw [literalAt?, List.getElem?_eq_none hle] at h
  contradiction

namespace Scan

variable {forms : List Form}

@[simp] theorem opened_none (scan : Scan) (depth : Int) :
    scan.opened none depth = scan.scopes := rfl

@[simp] theorem opened_some (scan : Scan) (literal : List Char) (depth : Int) :
    scan.opened (some literal) depth = .nested scan.scopes literal depth :: scan.scopes := rfl

/-- One line in full: its braces first, then the scope it opens, then what it closes. -/
theorem step_eq (scan : Scan) (line : List Char) :
    scan.step forms line =
      ⟨closeBelow (scan.depth + braceBalance line)
        (scan.opened (literal? forms line) (scan.depth + braceBalance line)),
        scan.depth + braceBalance line⟩ := rfl

@[simp] theorem step_depth (scan : Scan) (line : List Char) :
    (scan.step forms line).depth = scan.depth + braceBalance line := rfl

@[simp] theorem run_nil (scan : Scan) : run forms scan [] = scan := rfl

@[simp] theorem run_cons (scan : Scan) (line : List Char) (ls : List (List Char)) :
    run forms scan (line :: ls) = run forms (scan.step forms line) ls := rfl

/-- A run over two texts goes on with the second where the first one stops. -/
theorem run_append (scan : Scan) (a b : List (List Char)) :
    run forms scan (a ++ b) = run forms (run forms scan a) b :=
  List.foldl_append

/-- The depth a run ends at is the one it starts from and the balance of all it reads. -/
@[simp] theorem run_depth (scan : Scan) (ls : List (List Char)) :
    (run forms scan ls).depth = scan.depth + braceBalance ls.flatten := by
  induction ls generalizing scan with
  | nil => simp
  | cons line ls ih =>
    rw [run_cons, ih, step_depth, List.flatten_cons, braceBalance_append]
    omega

/-- **One more line** of a text. -/
theorem scopes_run_take_succ (scan : Scan) {ls : List (List Char)} {n : Nat} (h : n < ls.length) :
    (run forms scan (ls.take (n + 1))).scopes =
      closeBelow (scan.depth + depthAt ls n)
        ((run forms scan (ls.take n)).opened (literalAt? forms ls n)
          (scan.depth + depthAt ls n)) := by
  have hliteral : literalAt? forms ls n = literal? forms ls[n] := by
    rw [literalAt?, List.getElem?_eq_getElem h, Option.bind_some]
  have hdepth : scan.depth + depthAt ls n =
      (run forms scan (ls.take n)).depth + braceBalance ls[n] := by
    rw [depthAt, List.take_succ_eq_append_getElem h, List.flatten_append, braceBalance_append,
      run_depth, List.flatten_singleton]
    omega
  rw [hliteral, hdepth, List.take_succ_eq_append_getElem h, run_append]
  rfl

/-- Whatever stack a line finds, the one it leaves holds at its depth. -/
theorem holds_step (scan : Scan) (line : List Char) :
    Holds (scan.step forms line).depth (scan.step forms line).scopes :=
  holds_closeBelow _ _

/-- A stack that holds before a run holds behind it. -/
theorem holds_run {scan : Scan} (h : Holds scan.depth scan.scopes) (ls : List (List Char)) :
    Holds (run forms scan ls).depth (run forms scan ls).scopes := by
  induction ls generalizing scan with
  | nil => exact h
  | cons line ls ih => exact ih (holds_step scan line)

/-! ## the states between the lines -/

/-- The states over two texts are those of the first and then those of the second. -/
theorem states_append (scan : Scan) (a b : List (List Char)) :
    states forms scan (a ++ b) = states forms scan a ++ states forms (run forms scan a) b := by
  induction a generalizing scan with
  | nil => rfl
  | cons line a ih => simp [states, ih]

/-- The state after a line is the run over the lines up to it. -/
theorem states_eq_map (scan : Scan) (ls : List (List Char)) :
    states forms scan ls =
      (List.range ls.length).map fun i => run forms scan (ls.take (i + 1)) := by
  induction ls generalizing scan with
  | nil => rfl
  | cons line ls ih =>
    rw [states, ih, List.length_cons, List.range_succ_eq_map, List.map_cons, List.map_map]
    rfl

/-! ## the chain of open groups -/

/-- The literals of the open groups, outermost first.  A scope lies on the one
that was on top of the stack when it was opened. -/
def literals (scan : Scan) : List (List Char) := (scan.scopes.map Scope.literal).reverse

end Scan

/-- Every scope of the stack is nested in the one below it. -/
def Nested : List Scope → Prop
  | [] => True
  | scope :: below => scope.path = UrlPath.nest (topPath below) scope.literal ∧ Nested below

/-- The lower part of a nested stack is nested. -/
theorem Nested.of_suffix {scopes below : List Scope} (h : Nested scopes)
    (hsuffix : below <:+ scopes) : Nested below := by
  induction scopes with
  | nil => rwa [List.suffix_nil.mp hsuffix]
  | cons scope scopes ih =>
    rcases List.suffix_cons_iff.mp hsuffix with rfl | hsuffix
    · exact h
    · exact ih h.2 hsuffix

/-- The prefix of nested scopes is that of their literals. -/
theorem Nested.topPath_eq {scopes : List Scope} (h : Nested scopes) :
    topPath scopes = ((scopes.map Scope.literal).reverse).foldl UrlPath.nest [] := by
  induction scopes with
  | nil => rfl
  | cons scope scopes ih =>
    rw [List.map_cons, List.reverse_cons, List.foldl_append, ← ih h.2]
    exact h.1

namespace Scan

variable {forms : List Form}

/-- A line keeps the paths of the open scopes nested. -/
theorem nested_step {scan : Scan} (h : Nested scan.scopes) (line : List Char) :
    Nested (scan.step forms line).scopes := by
  have hopened : Nested (scan.opened (literal? forms line) (scan.depth + braceBalance line)) := by
    cases literal? forms line with
    | none => exact h
    | some literal => exact ⟨rfl, h⟩
  exact hopened.of_suffix (List.dropWhile_suffix _)

/-- A run keeps the paths of the open scopes nested. -/
theorem nested_run {scan : Scan} (h : Nested scan.scopes) (ls : List (List Char)) :
    Nested (run forms scan ls).scopes := by
  induction ls generalizing scan with
  | nil => exact h
  | cons line ls ih => exact ih (nested_step h line)

/-- The prefix in force is that of the literals of the open groups. -/
theorem path_run_eq_foldl (ls : List (List Char)) :
    (run forms {} ls).path = (run forms {} ls).literals.foldl UrlPath.nest [] := by
  have hinit : Nested ({} : Scan).scopes := trivial
  exact (nested_run hinit ls).topPath_eq

/-- Every open group was there before, or one of the lines has opened it. -/
theorem mem_scopes_run {scan : Scan} {ls : List (List Char)} {scope : Scope}
    (h : scope ∈ (run forms scan ls).scopes) :
    scope ∈ scan.scopes ∨ ∃ line ∈ ls, literal? forms line = some scope.literal := by
  induction ls generalizing scan with
  | nil => exact .inl h
  | cons line ls ih =>
    rcases ih h with h | ⟨line', hline', hliteral⟩
    · rw [step_eq] at h
      have hopened := List.dropWhile_subset _ h
      cases hliteral : literal? forms line with
      | none => exact .inl (by simpa [hliteral] using hopened)
      | some literal =>
        rw [hliteral, opened_some] at hopened
        rcases List.mem_cons.mp hopened with rfl | hscope
        · exact .inr ⟨line, List.mem_cons_self .., hliteral⟩
        · exact .inl hscope
    · exact .inr ⟨line', List.mem_cons_of_mem line hline', hliteral⟩

/-- The literals of the open groups stand in the lines. -/
theorem exists_line_of_mem_literals {ls : List (List Char)} {literal : List Char}
    (h : literal ∈ (run forms {} ls).literals) :
    ∃ line ∈ ls, literal? forms line = some literal := by
  obtain ⟨scope, hscope, rfl⟩ := List.mem_map.mp (List.mem_reverse.mp h)
  exact (mem_scopes_run hscope).resolve_left List.not_mem_nil

end Scan

/-- The prefix of a line is the one in force after a run up to it. -/
theorem linePrefixes_eq_map (forms : List Form) (text : String) :
    linePrefixes forms text =
      (List.range (Text.lines text).length).map fun i =>
        (Scan.run forms {} ((Text.lines text).take (i + 1))).path := by
  rw [linePrefixes, Scan.states_eq_map, List.map_map]
  rfl

/-- Each line of a text has one prefix. -/
theorem length_linePrefixes (forms : List Form) (text : String) :
    (linePrefixes forms text).length = (Text.lines text).length := by
  rw [linePrefixes_eq_map, List.length_map, List.length_range]

/-- The prefix of a line is the path that is open when the run has read it too. -/
theorem getElem?_linePrefixes (forms : List Form) {text : String} {i : Nat}
    (h : i < (Text.lines text).length) :
    (linePrefixes forms text)[i]? =
      some (Scan.run forms {} ((Text.lines text).take (i + 1))).path := by
  rw [linePrefixes_eq_map, List.getElem?_map, List.getElem?_range h]
  rfl

/-- The lines behind others are scanned from the state that these leave. -/
theorem getElem?_linePrefixes_append (forms : List Form) (front : List Text.Line)
    {back : List Text.Line} {i : Nat} (h : i < back.length) :
    (linePrefixes forms (Text.textOf (front ++ back)))[front.length + i]? =
      some (Scan.run forms (Scan.run forms {} (front.map (·.chars)))
        ((back.map (·.chars)).take (i + 1))).path := by
  have hne : front ++ back ≠ [] :=
    List.append_ne_nil_of_right_ne_nil front (List.ne_nil_of_length_pos (by omega))
  have hlines := Text.lines_textOf hne
  have hlt : front.length + i < (Text.lines (Text.textOf (front ++ back))).length := by
    rw [hlines, List.length_map, List.length_append]
    omega
  rw [getElem?_linePrefixes forms hlt, hlines, ← Scan.run_append, List.map_append, Nat.add_assoc]
  congr 3
  rw [← List.length_map (·.chars), List.take_length_add_append]

variable {forms : List Form} {text text' : String}

/-- **The prefix of a line** depends on the lines up to it only. -/
theorem getElem?_linePrefixes_of_take_eq {i : Nat}
    (h : (Text.lines text).take (i + 1) = (Text.lines text').take (i + 1)) :
    (linePrefixes forms text)[i]? = (linePrefixes forms text')[i]? := by
  have hlength := congrArg List.length h
  rw [List.length_take, List.length_take] at hlength
  by_cases hi : i < (Text.lines text).length
  · rw [getElem?_linePrefixes forms hi, getElem?_linePrefixes forms (by omega), h]
  · rw [List.getElem?_eq_none (by rw [length_linePrefixes]; omega),
      List.getElem?_eq_none (by rw [length_linePrefixes]; omega)]

/-! ## interchangeable lines -/

/-- A scan cannot tell the lines apart. -/
structure Interchangeable (forms : List Form) (line line' : List Char) : Prop where
  balance : braceBalance line = braceBalance line'
  literal : literal? forms line = literal? forms line'

theorem Interchangeable.refl (line : List Char) : Interchangeable forms line line := ⟨rfl, rfl⟩

namespace Scan

/-- Interchangeable lines are one step of the scan. -/
theorem step_eq_step {line line' : List Char} (h : Interchangeable forms line line') (scan : Scan) :
    scan.step forms line = scan.step forms line' := by
  rw [step_eq, step_eq, h.balance, h.literal]

/-- Lines that are interchangeable one by one take a scan to the same state. -/
theorem run_eq_run {ls ls' : List (List Char)} (h : List.Forall₂ (Interchangeable forms) ls ls')
    (scan : Scan) : run forms scan ls = run forms scan ls' := by
  induction h generalizing scan with
  | nil => rfl
  | cons hline _ ih => rw [run_cons, run_cons, step_eq_step hline, ih]

end Scan

/-- **Interchangeable lines** give the same prefixes. -/
theorem linePrefixes_eq_of_interchangeable
    (h : List.Forall₂ (Interchangeable forms) (Text.lines text) (Text.lines text')) :
    linePrefixes forms text = linePrefixes forms text' := by
  rw [linePrefixes_eq_map, linePrefixes_eq_map, h.length_eq]
  refine List.map_congr_left fun i _ => ?_
  rw [Scan.run_eq_run (List.forall₂_take (i + 1) h)]

end RoutePaths.Group
