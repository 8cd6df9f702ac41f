import RoutePaths.Proofs.Text.Lines
import RoutePaths.Text.Blank

/-!
# RoutePaths.Proofs.Text.LineEnding

Texts with a carriage return before every line feed.  A carriage return belongs
to its line, so these texts have the same lines with one at the end of each,
except for the last line, which no line feed follows (`lines_crlf`); the other
way round, lines without a line feed make up such a text (`crlf_unlines`).
-/

namespace RoutePaths.Text

/-- What is written for a character: a line feed has a carriage return before
it. -/
def withReturn (c : Char) : List Char := if c = '\n' then ['\r', '\n'] else [c]

/-- The text with a carriage return before every line feed. -/
def crlf (s : String) : String := String.ofList (s.toList.flatMap withReturn)

/-- The lines with a carriage return at the end of each but the last. -/
def returned : List (List Char) → List (List Char)
  | [] => []
  | line :: rest => (if rest = [] then line else line ++ ['\r']) :: returned rest

/-! ## the lines of a text -/

theorem returned_cons {rest : List (List Char)} (h : rest ≠ []) (line : List Char) :
    returned (line :: rest) = (line ++ ['\r']) :: returned rest := by
  rw [returned, if_neg h]

/-- What stands in front of the first line stays in front of it. -/
theorem exists_returned_cons (line : List Char) (rest : List (List Char)) :
    ∃ line' rest', returned (line :: rest) = line' :: rest' ∧
      ∀ c, returned ((c :: line) :: rest) = (c :: line') :: rest' := by
  refine ⟨_, _, rfl, fun c => ?_⟩
  rw [returned]
  split <;> rfl

/-- Returns in front of the line breaks stand at the ends of the lines. -/
theorem splitOn_flatMap_withReturn (s : List Char) :
    splitOn '\n' (s.flatMap withReturn) = returned (splitOn '\n' s) := by
  induction s with
  | nil => rfl
  | cons c s ih =>
    rw [List.flatMap_cons]
    by_cases hc : c = '\n'
    · subst hc
      have hreturn : withReturn '\n' ++ s.flatMap withReturn =
          ['\r'] ++ '\n' :: s.flatMap withReturn := rfl
      rw [hreturn, splitOn_append_cons, ih, splitOn_cons_self,
        returned_cons (splitOn_ne_nil '\n' s)]
      rfl
    · obtain ⟨piece, pieces, hs⟩ := exists_splitOn_eq_cons '\n' s
      obtain ⟨piece', pieces', hreturned, hfront⟩ := exists_returned_cons piece pieces
      rw [hs, hreturned] at ih
      rw [splitOn_cons_of_ne hc hs, hfront, withReturn, if_neg hc, List.singleton_append,
        splitOn_cons_of_ne hc ih]

/-- **The lines of a text with carriage returns.** -/
theorem lines_crlf (s : String) : lines (crlf s) = returned (lines s) := by
  rw [lines, crlf, String.toList_ofList, splitOn_flatMap_withReturn]
  rfl

theorem flatMap_withReturn_eq_self {s : List Char} (h : '\n' ∉ s) : s.flatMap withReturn = s := by
  induction s with
  | nil => rfl
  | cons c s ih =>
    rw [List.mem_cons, not_or] at h
    rw [List.flatMap_cons, ih h.2, withReturn, if_neg (Ne.symm h.1), List.singleton_append]

/-- Joined lines get returns at all ends but the last. -/
theorem flatMap_withReturn_joinWith {ls : List (List Char)} (h : ∀ line ∈ ls, '\n' ∉ line) :
    (joinWith ['\n'] ls).flatMap withReturn = joinWith ['\n'] (returned ls) := by
  induction ls with
  | nil => rfl
  | cons line ls ih =>
    have hline := flatMap_withReturn_eq_self (h line (List.mem_cons_self ..))
    have hrest := ih fun l hl => h l (List.mem_cons_of_mem line hl)
    cases ls with
    | nil => exact hline
    | cons next ls =>
      obtain ⟨next', ls', hreturned, -⟩ := exists_returned_cons next ls
      rw [returned_cons (List.cons_ne_nil next ls), hreturned, joinWith_cons_cons,
        joinWith_cons_cons, List.flatMap_append, List.flatMap_append, hline, hrest, hreturned,
        List.append_assoc]
      rfl

/-- Lines make up a text with carriage returns, if they hold no line feed. -/
theorem crlf_unlines {ls : List (List Char)} (h : ∀ line ∈ ls, '\n' ∉ line) :
    crlf (unlines ls) = unlines (returned ls) := by
  rw [crlf, unlines, String.toList_ofList, flatMap_withReturn_joinWith h]
  rfl

/-! ## lines with and without a carriage return -/

/-- A carriage return at the end of a line is blank. -/
theorem trim_append_return (line : List Char) : trim (line ++ ['\r']) = trim line := by
  have hreturn : isBlank '\r' := by decide
  have hend : ∀ s, trimEnd (s ++ ['\r']) = trimEnd s := by
    intro s
    simp [trimEnd, hreturn]
  rw [trim, trimStart, List.dropWhile_append]
  split
  · next hblank =>
    rw [trim, trimStart, List.isEmpty_iff.mp hblank]
    simp [hreturn]
  · exact hend _

/-- What does not see the carriage return of a line is the same for all lines. -/
theorem map_returned {β : Type} {f : List Char → β} (h : ∀ line, f (line ++ ['\r']) = f line)
    (ls : List (List Char)) : (returned ls).map f = ls.map f := by
  induction ls with
  | nil => rfl
  | cons line ls ih =>
    rw [returned, List.map_cons, List.map_cons, ih]
    split
    · rfl
    · rw [h]

/-- A change that leaves the carriage return of the line at its end can be made
before or after the carriage returns are written. -/
theorem modify_returned {f : List Char → List Char} {ls : List (List Char)} {i : Nat}
    (h : ∀ line, ls[i]? = some line → f (line ++ ['\r']) = f line ++ ['\r']) :
    (returned ls).modify i f = returned (ls.modify i f) := by
  induction ls generalizing i with
  | nil => cases i <;> rfl
  | cons line ls ih =>
    cases i with
    | zero =>
      rw [List.modify_zero_cons, returned, returned, List.modify_zero_cons]
      split
      · rfl
      · rw [h line rfl]
    | succ i =>
      have hnil : ls.modify i f = [] ↔ ls = [] := by
        rw [← List.length_eq_zero_iff, List.length_modify, List.length_eq_zero_iff]
      rw [List.modify_succ_cons, returned, returned, List.modify_succ_cons, ih h]
      simp only [hnil]

end RoutePaths.Text
