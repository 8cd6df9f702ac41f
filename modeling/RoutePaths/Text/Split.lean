/-!
# RoutePaths.Text.Split

Cutting a text at every occurrence of one character and putting pieces back
together:

1. `splitOn` keeps empty pieces, so there is one piece more than there are
   separators, and joining the pieces with the separator gives the text back;
2. a line ends at a line feed only; a carriage return belongs to its line.
-/

namespace RoutePaths.Text

/-- The pieces of a text between the occurrences of `sep`. -/
def splitOn (sep : Char) : List Char → List (List Char)
  | [] => [[]]
  | c :: rest =>
    if c = sep then [] :: splitOn sep rest
    else match splitOn sep rest with
      | [] => [[c]]
      | piece :: pieces => (c :: piece) :: pieces

/-- The pieces one after the other with `sep` between them. -/
def joinWith (sep : List Char) : List (List Char) → List Char
  | [] => []
  | [piece] => piece
  | piece :: pieces => piece ++ sep ++ joinWith sep pieces

theorem splitOn_ne_nil (sep : Char) (s : List Char) : splitOn sep s ≠ [] := by
  cases s with
  | nil => simp [splitOn]
  | cons c rest =>
    rw [splitOn]
    split
    · simp
    · split <;> simp

/-- Joining undoes splitting. -/
theorem joinWith_splitOn (sep : Char) (s : List Char) : joinWith [sep] (splitOn sep s) = s := by
  induction s with
  | nil => rfl
  | cons c rest ih =>
    rw [splitOn]
    split
    · next h =>
      cases hp : splitOn sep rest with
      | nil => exact absurd hp (splitOn_ne_nil sep rest)
      | cons piece pieces => rw [hp] at ih; simp [joinWith, ih, h]
    · split
      · next hp => exact absurd hp (splitOn_ne_nil sep rest)
      · next piece pieces hp =>
        rw [hp] at ih
        cases pieces with
        | nil => simp_all [joinWith]
        | cons q qs => simp_all [joinWith]

/-- The lines of a text. -/
def lines (s : String) : List (List Char) := splitOn '\n' s.toList

/-- A text from its lines. -/
def unlines (ls : List (List Char)) : String := String.ofList (joinWith ['\n'] ls)

end RoutePaths.Text
