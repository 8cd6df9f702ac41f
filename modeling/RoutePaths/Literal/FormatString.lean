import RoutePaths.Literal.Escape
import RoutePaths.Literal.Lexer

/-!
# RoutePaths.Literal.FormatString

Strings with fields between braces:

1. a brace that is written twice stands for itself, except in the format of a
   field;
2. a field is an expression, an equals sign if its text is wanted, the letter of
   a conversion behind an exclamation mark, and a format behind a colon; a
   format may hold fields, but theirs may not;
3. an expression ends outside of its brackets and strings, at a closing brace,
   or at an exclamation mark, a colon or an equals sign that is no part of a
   comparison; it holds neither a backslash nor a number sign.
-/

namespace RoutePaths.Literal

/-! ## Expressions of fields -/

/-- The message about a field that does not end. -/
def noFieldEnd : String := "f-string: expecting '\x7d'"

/-- What is open at a place in the expression of a field. -/
structure FieldState where
  /-- The quote of a string, and whether there are three of it. -/
  quote : Option (Char × Bool) := none
  /-- The brackets, innermost first. -/
  brackets : List Char := []
  deriving Repr, DecidableEq, Inhabited

/-- Whether two characters are a comparison. -/
def isComparison (c d : Char) : Bool :=
  d = '=' && (c = '!' || c = '=' || c = '<' || c = '>')

/-- The state behind a closing bracket. -/
def FieldState.close (p : FieldState) (c : Char) : Except String FieldState :=
  match p.brackets with
  | [] => .error ("f-string: unmatched '" ++ String.ofList [c] ++ "'")
  | bracket :: outer =>
    if openingOf? c = some bracket then .ok { p with brackets := outer }
    else .error ("f-string: closing parenthesis '" ++ String.ofList [c]
      ++ "' does not match opening parenthesis '" ++ String.ofList [bracket] ++ "'")

/-- How the expression of a field goes on at a character: the number of characters
behind it that belong to it, and the state behind them; nothing if it ends
there. -/
def FieldState.step (p : FieldState) (c : Char) (rest : List Char) :
    Except String (Option (Nat × FieldState)) :=
  let isTriple := match rest with
    | d :: e :: _ => d = c && e = c
    | _ => false
  let isPair := rest.head?.any (isComparison c)
  if c = '\\' then .error "f-string expression part cannot include a backslash"
  else match p.quote with
    | some (q, isLong) =>
      if c ≠ q || (isLong && !isTriple) then .ok (some (0, p))
      else .ok (some (if isLong then 2 else 0, { p with quote := none }))
    | none =>
      if c = '\'' || c = '"' then
        .ok (some (if isTriple then 2 else 0, { p with quote := some (c, isTriple) }))
      else if c = '(' || c = '\x7b' then
        if maxBrackets ≤ p.brackets.length then .error "f-string: too many nested parenthesis"
        else .ok (some (0, { p with brackets := c :: p.brackets }))
      else if c = '#' then .error "f-string expression part cannot include '#'"
      else if p.brackets.isEmpty && isPair then .ok (some (1, p))
      else if p.brackets.isEmpty && (c = '!' || c = ':' || c = '\x7d' || c = '=') then .ok none
      else if c = ')' || c = '\x7d' then (p.close c).map fun p => some (0, p)
      else .ok (some (0, p))

/-- The error of a text that ends in the expression of a field. -/
def FieldState.breaksOff (p : FieldState) : String :=
  if p.quote.isSome then "f-string: unterminated string"
  else match p.brackets with
    | bracket :: _ => "f-string: unmatched '" ++ String.ofList [bracket] ++ "'"
    | [] => noFieldEnd

/-- The expression at the start of a field, and the rest from the character on
that ends it. -/
def fieldExpression (p : FieldState) : List Char → Except String (List Char × List Char)
  | [] => .error p.breaksOff
  | c :: rest => do
    match ← p.step c rest with
    | none => return ([], c :: rest)
    | some (count, p) =>
      let (expression, behind) ← fieldExpression p (rest.drop count)
      return (c :: rest.take count ++ expression, behind)
termination_by s => s.length
decreasing_by
  simp only [List.length_drop, List.length_cons]
  omega

/-- What is wrong with an expression that holds nothing but blanks, by the
character that ends it. -/
def blankFault? (expression behind : List Char) : Option String :=
  if expression.all fun c => c = ' ' || c = '\t' || c = '\n' || c = '\x0c' then
    match behind with
    | '\x7d' :: _ | [] => some "f-string: empty expression not allowed"
    | c :: _ => some ("f-string: expression required before '" ++ String.ofList [c] ++ "'")
  else none

/-! ## Text between fields -/

/-- The text that a string begins with. -/
structure TextPart where
  text : List Char
  /-- Whether it ends with a brace that is written twice. -/
  isDoubled : Bool
  rest : List Char
  deriving Repr, DecidableEq, Inhabited

/-- What stands before a place in a text. -/
inductive TextState where
  | plain
  /-- A backslash. -/
  | escape
  /-- The letter of an escape by name. -/
  | named
  /-- The opening brace of an escape by name, and a part of the name. -/
  | name
  deriving Repr, DecidableEq, Inhabited

/-- The state behind a character that is text. -/
def TextState.next (isRaw : Bool) (c : Char) : TextState → TextState
  | plain => if c = '\\' && !isRaw then escape else plain
  | escape => if c = 'N' then named else plain
  | named => if c = '\x7b' then name else plain
  | name => if c = '\x7d' then plain else name

/-- The text up to the first field or the end of a format; what is between the
braces of an escape by name is text. -/
def textPart (isRaw isFormat : Bool) (state : TextState) : List Char → Except String TextPart
  | [] => .ok ⟨[], false, []⟩
  | c :: rest =>
    if (c = '\x7b' || c = '\x7d') && (state = .plain || state = .escape) then
      if isFormat then .ok ⟨[], false, c :: rest⟩
      else if rest.head? = some c then .ok ⟨[c], true, rest.tail⟩
      else if c = '\x7d' then .error "f-string: single '\x7d' is not allowed"
      else .ok ⟨[], false, c :: rest⟩
    else do
      let part ← textPart isRaw isFormat (state.next isRaw c) rest
      return { part with text := c :: part.text }

/-! ## Fields -/

/-- The rest behind an equals sign and the blanks that follow it. -/
def behindEquals (s : List Char) : Except String (List Char) :=
  match s with
  | '=' :: rest =>
    let rest := rest.dropWhile fun c => c = ' ' || ('\t' ≤ c && c ≤ '\r')
    if rest.isEmpty then .error noFieldEnd else .ok rest
  | _ => .ok s

/-- The rest behind a conversion. -/
def behindConversion (s : List Char) : Except String (List Char) :=
  match s with
  | '!' :: c :: rest =>
    if c = 's' || c = 'r' || c = 'a' then .ok rest
    else .error "f-string: invalid conversion character: expected 's', 'r', or 'a'"
  | ['!'] => .error noFieldEnd
  | _ => .ok s

/-- The rest behind the brace that ends a field. -/
def behindBrace (s : List Char) : Except String (List Char) :=
  match s with
  | '\x7d' :: rest => .ok rest
  | _ => .error noFieldEnd

mutual

/-- The rest behind a text with fields; the expressions of fields are checked by
`inside`, which is told what of the string stands from them on.  `fuel` bounds
the number of fields and texts. -/
def behindFormat (inside : List Char → List Char → Option String) (isRaw : Bool) :
    Nat → Nat → List Char → Except String (List Char)
  | 0, _, _ => .ok []
  | fuel + 1, level, s => do
    let part ← textPart isRaw (0 < level) .plain s
    let form := asciiForm part.text
    match if isRaw then none else textFault? form.length 0 form with
    | some message => .error message
    | none =>
      if part.isDoubled then behindFormat inside isRaw fuel level part.rest
      else match part.rest with
        | '\x7b' :: field => do
          behindFormat inside isRaw fuel level (← behindField inside isRaw fuel level field)
        | [] => if level = 0 then .ok [] else .error noFieldEnd
        | rest => .ok rest

/-- The rest behind a field without its first brace. -/
def behindField (inside : List Char → List Char → Option String) (isRaw : Bool) :
    Nat → Nat → List Char → Except String (List Char)
  | 0, _, _ => .ok []
  | fuel + 1, level, s =>
    if 2 ≤ level then .error "f-string: expressions nested too deeply"
    else do
      let (expression, behind) ← fieldExpression {} s
      match (blankFault? expression behind).or (inside s expression) with
      | some message => .error message
      | none =>
        match ← behindConversion (← behindEquals behind) with
        | [':'] => .error noFieldEnd
        | ':' :: format => do behindBrace (← behindFormat inside isRaw fuel (level + 1) format)
        | rest => behindBrace rest

end

/-- What is wrong with the characters of a string with fields; `inside` tells
what is wrong with an expression behind a number of line feeds. -/
def formatFault? (inside : Nat → List Char → Option String) (isRaw : Bool) (s : List Char) :
    Option String :=
  let insideFrom (from_ expression : List Char) : Option String :=
    inside (s.count '\n' - from_.count '\n') expression
  match behindFormat insideFrom isRaw (2 * s.length + 2) 0 s with
  | .ok _ => none
  | .error message => some message

end RoutePaths.Literal
