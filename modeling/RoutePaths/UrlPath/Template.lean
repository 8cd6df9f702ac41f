import RoutePaths.Text.Word

/-!
# RoutePaths.UrlPath.Template

Paths with placeholders.  A placeholder is a word in braces, with a question
mark after the word if the parameter may be left out; anything else in braces
is ordinary text.  An OpenAPI path writes the word in braces alone and tells
optional parameters apart elsewhere.
-/

namespace RoutePaths.UrlPath

/-! ## Reading -/

/-- A part of a path template. -/
inductive Part where
  /-- An ordinary character. -/
  | char (c : Char)
  /-- A parameter, which may be left out if it is optional. -/
  | parameter (name : List Char) (isOptional : Bool)
  deriving Repr, DecidableEq

/-- The name of the placeholder whose opening brace stands before the text,
whether it is optional, and the text after its closing brace. -/
def placeholder? (s : List Char) : Option (List Char × Bool × List Char) :=
  match s.takeWhile Text.isWord, s.dropWhile Text.isWord with
  | [], _ => none
  | name, '?' :: '}' :: rest => some (name, true, rest)
  | name, '}' :: rest => some (name, false, rest)
  | _, _ => none

theorem length_lt_of_placeholder? {s name rest : List Char} {isOptional : Bool}
    (h : placeholder? s = some (name, isOptional, rest)) : rest.length < s.length := by
  have hle : (s.dropWhile Text.isWord).length ≤ s.length :=
    (List.dropWhile_sublist Text.isWord).length_le
  unfold placeholder? at h
  split at h
  · simp at h
  · next hd _ => simp only [Option.some.injEq, Prod.mk.injEq] at h; rw [hd] at hle; grind
  · next hd _ => simp only [Option.some.injEq, Prod.mk.injEq] at h; rw [hd] at hle; grind
  · simp at h

/-- The parts of a path. -/
def parts : List Char → List Part
  | [] => []
  | c :: rest =>
    if c = '{' then
      match _h : placeholder? rest with
      | some (name, isOptional, rest') => .parameter name isOptional :: parts rest'
      | none => .char c :: parts rest
    else .char c :: parts rest
termination_by s => s.length
decreasing_by
  · have := length_lt_of_placeholder? _h; grind
  · simp
  · simp

/-! ## Writing -/

/-- How a part is written in an OpenAPI path. -/
def Part.chars : Part → List Char
  | .char c => [c]
  | .parameter name _ => '{' :: name ++ ['}']

/-- The parameter name of a part. -/
def Part.name? : Part → Option String
  | .char _ => none
  | .parameter name _ => some (String.ofList name)

/-- A path with its parameters told apart from its text. -/
structure Template where
  parts : List Part
  deriving Repr, DecidableEq

namespace Template

/-- The template that a path spells. -/
def ofPath (path : String) : Template := ⟨UrlPath.parts path.toList⟩

/-- The OpenAPI path of a template. -/
def path (t : Template) : String := String.ofList (t.parts.flatMap Part.chars)

/-- The names of the parameters, in order and with repetitions. -/
def names (t : Template) : List String := t.parts.filterMap Part.name?

/-- Whether a parameter is marked optional somewhere in the path. -/
def isOptional (t : Template) (name : String) : Bool :=
  t.parts.contains (.parameter name.toList true)

/-- The names of the optional parameters, each once. -/
def optionalNames (t : Template) : List String := (t.names.filter t.isOptional).eraseDups

end Template

end RoutePaths.UrlPath
