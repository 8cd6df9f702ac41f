import RoutePaths.Literal.Numeral
import RoutePaths.Text.Quoted

/-!
# RoutePaths.Literal.Lexer

The tokens of a text:

1. blanks and comments stand between tokens, and so do line ends inside
   brackets, those of blank lines, and those behind a backslash;
2. a line outside of brackets that is indented more or less than the one
   before is marked;
3. where no token can be read, the text has a fault and no further token.
-/

namespace RoutePaths.Literal

/-! ## Names and strings -/

/-- The message about a character that no name can hold. -/
def badCharacter (c : Char) : String :=
  let code := String.ofList (Text.hex (if c.toNat < 0x10000 then 4 else if c.toNat < 0x100000 then 5
    else 6) c.toNat |>.map Char.toUpper)
  if Text.isPrintable c then "invalid character '" ++ String.ofList [c] ++ "' (U+" ++ code ++ ")"
  else "invalid non-printable character U+" ++ code

/-- The first character of a word that no name can hold in its place. -/
def badInName? : List Char → Option Char
  | [] => none
  | c :: rest =>
    if Text.beginsName c then rest.find? (!Text.continuesName ·) else some c

/-- Whether letters may stand before the quote of a string: one that tells its
kind, one that keeps its backslashes, or both. -/
def isStringLetters (letters : List Char) : Bool :=
  ["", "b", "u", "r", "f", "br", "rb", "fr", "rf"].contains
    (String.ofList (letters.map Char.toLower))

/-- The characters of a string up to its closing quotes, and the rest; or the
characters up to the place where it breaks off. -/
def stringBody (quote : Char) (isLong : Bool) :
    List Char → Except (List Char) (List Char × List Char)
  | [] => .error []
  | '\\' :: c :: rest => more ['\\', c] (stringBody quote isLong rest)
  | c :: rest =>
    if c = '\\' then .error [c]
    else if c = '\n' && !isLong then .error []
    else if c = quote then
      if !isLong then .ok ([c], rest)
      else match rest with
        | d :: e :: after =>
          if d = quote && e = quote then .ok ([c, d, e], after)
          else more [c] (stringBody quote isLong rest)
        | _ => more [c] (stringBody quote isLong rest)
    else more [c] (stringBody quote isLong rest)
where
  /-- Characters before those of a string. -/
  more (chars : List Char) :
      Except (List Char) (List Char × List Char) → Except (List Char) (List Char × List Char)
    | .ok (body, rest) => .ok (chars ++ body, rest)
    | .error body => .error (chars ++ body)

/-! ## States -/

/-- A place in a text. -/
structure Place where
  rest : List Char
  line : Nat := 1
  /-- The open brackets and their lines, innermost first. -/
  brackets : List (Char × Nat) := []
  /-- The indentations of the open blocks, innermost first: in columns, with
  tabs to every eighth one, and in characters. -/
  indents : List (Nat × Nat) := [(0, 0)]
  isLineStart : Bool := true
  deriving Repr, Inhabited

namespace Place

/-- A token with a text that ends at a place. -/
def token (p : Place) (kind : Kind) (text : List Char) (line : Nat) : Token :=
  { kind, text, depth := p.brackets.length, line }

/-- A fault in the middle of a text. -/
def fault (p : Place) (message : String) (isGrave : Bool) : Fault :=
  { message, isGrave, bracket := p.brackets.head? }

/-- The fault of a text that breaks off. -/
def breaksOff (p : Place) : Fault :=
  p.fault (match p.brackets with
    | (bracket, _) :: _ => neverClosed bracket
    | [] => "unexpected EOF while parsing") false

/-- The fault of a backslash with something behind it. -/
def badContinuation (p : Place) : Fault :=
  p.fault "unexpected character after line continuation character" false

end Place

/-! ## Indentation -/

/-- The indentation of a line, as far as it reaches. -/
structure Indentation where
  column : Nat := 0
  chars : Nat := 0
  /-- The column of the first backslash that continues the line, if it is not
  the first column. -/
  continued : Nat := 0
  deriving Repr, Inhabited

/-- The indentation at the start of a line, and the place behind it. -/
def indentation (p : Place) (i : Indentation) : List Char → Except Fault (Indentation × Place)
  | ' ' :: rest => indentation p { i with column := i.column + 1, chars := i.chars + 1 } rest
  | '\t' :: rest =>
    indentation p { i with column := (i.column / 8 + 1) * 8, chars := i.chars + 1 } rest
  | '\x0c' :: rest => indentation p { i with column := 0, chars := 0 } rest
  | '\\' :: rest =>
    match rest with
    | '\n' :: c :: rest =>
      indentation { p with line := p.line + 1 }
        { i with continued := if i.continued = 0 then i.column else i.continued } (c :: rest)
    | ['\n'] => .error p.breaksOff
    | _ => .error p.badContinuation
  | rest => .ok (i, { p with rest, isLineStart := false })

/-- The most blocks that may be open inside each other. -/
def maxBlocks : Nat := 100

/-- The marks of a line with an indentation, and the place behind them. -/
def indentMarks (p : Place) (i : Indentation) : Except Fault (List Token × Place) :=
  let (column, chars) := if i.continued = 0 then (i.column, i.chars) else (i.continued, i.continued)
  let inconsistent : Fault :=
    p.fault "inconsistent use of tabs and spaces in indentation" false
  match p.indents with
  | [] => .ok ([], p)
  | (c, k) :: outer =>
    if column = c then
      if chars = k then .ok ([], p) else .error inconsistent
    else if c < column then
      if maxBlocks ≤ outer.length + 1 then
        .error (p.fault "too many levels of indentation" false)
      else if chars ≤ k then .error inconsistent
      else .ok ([p.token .indent [] p.line], { p with indents := (column, chars) :: p.indents })
    else
      let closed := p.indents.takeWhile fun block => column < block.1
      let indents := p.indents.drop closed.length
      match indents with
      | (c, k) :: _ =>
        if column ≠ c then
          .error (p.fault "unindent does not match any outer indentation level" false)
        else if chars ≠ k then .error inconsistent
        else .ok (closed.map fun _ => p.token .dedent [] p.line, { p with indents })
      | [] => .ok ([], p)

/-! ## Tokens -/

/-- The most brackets that may be open inside each other. -/
def maxBrackets : Nat := 200

/-- The bracket that a bracket closes. -/
def openingOf? (c : Char) : Option Char :=
  if c = ')' then some '(' else if c = '}' then some '{' else none

/-- A token of one character and the place behind it. -/
def oneCharacter (p : Place) (c : Char) (rest : List Char) : Except Fault (Token × Place) :=
  let single (p : Place) : Except Fault (Token × Place) :=
    if Text.isPrintable c then
      .ok (p.token .operator [c] p.line, { p with rest })
    else .error (p.fault (badCharacter c) true)
  if c = '(' || c = '{' then
    if maxBrackets ≤ p.brackets.length then .error (p.fault "too many nested parentheses" true)
    else single { p with brackets := (c, p.line) :: p.brackets }
  else match openingOf? c with
    | none => single p
    | some opening =>
      match p.brackets with
      | [] => .error (p.fault ("unmatched '" ++ String.ofList [c] ++ "'") true)
      | (bracket, line) :: outer =>
        if bracket = opening then single { p with brackets := outer }
        else .error (p.fault ("closing parenthesis '" ++ String.ofList [c]
          ++ "' does not match opening parenthesis '" ++ String.ofList [bracket] ++ "'"
          ++ (if line = p.line then "" else " on line " ++ toString line)) true)

/-- A string behind letters, and the place behind it. -/
def stringToken (p : Place) (letters : List Char) (quote : Char) (rest : List Char) :
    Except Fault (Token × Place) :=
  let isLong := match rest with
    | d :: e :: _ => d = quote && e = quote
    | _ => false
  let opening := if isLong then [quote, quote, quote] else [quote]
  match stringBody quote isLong (rest.drop (opening.length - 1)) with
  | .ok (body, rest) =>
    .ok (p.token .string (letters ++ opening ++ body) p.line,
      { p with rest, line := p.line + body.count '\n' })
  | .error body =>
    -- a line feed at the very end of the text begins no further line
    let isEnd := rest.length = opening.length - 1 + body.length
    let lines := body.count '\n' - if isEnd && body.getLast? = some '\n' then 1 else 0
    .error (p.fault ((if isLong then "unterminated triple-quoted string literal"
      else "unterminated string literal") ++ " (detected at line " ++ toString (p.line + lines)
        ++ ")") true)

/-- A name, or a string with letters before its quote, and the place behind
it. -/
def nameToken (p : Place) (s : List Char) : Except Fault (Token × Place) :=
  let letters := s.takeWhile Char.isAlpha
  match s.drop letters.length with
  | quote :: rest =>
    if (quote = '\'' || quote = '"') && isStringLetters letters then
      stringToken p letters quote rest
    else word ()
  | [] => word ()
where
  /-- A name and the place behind it. -/
  word (_ : Unit) : Except Fault (Token × Place) :=
    let text := s.takeWhile isNamelike
    let rest := s.drop text.length
    if text.all (·.toNat < 0x80) then .ok (p.token .name text p.line, { p with rest })
    else match badInName? text with
      | some c => .error (p.fault (badCharacter c) true)
      | none => .ok (p.token .name text p.line, { p with rest })

/-- The token at a place that begins with a character, and the place behind
it. -/
def tokenAt (p : Place) (c : Char) (rest : List Char) : Except Fault (Token × Place) :=
  if c.isAlpha || c = '_' || 0x80 ≤ c.toNat then nameToken p (c :: rest)
  else if c.isDigit || (c = '.' && rest.head?.any Char.isDigit) then
    match numeralRest (c :: rest) with
    | .error message => .error (p.fault message true)
    | .ok behind =>
      let text := (c :: rest).take (rest.length + 1 - behind.length)
      .ok (p.token .number text p.line, { p with rest := behind })
  else if c = '\'' || c = '"' then stringToken p [] c rest
  else if ['.', '.', '.'].isPrefixOf (c :: rest) then
    .ok (p.token .operator ['.', '.', '.'] p.line, { p with rest := rest.drop 2 })
  else match longOperators.find? (·.isPrefixOf (c :: rest)) with
    | some text =>
      .ok (p.token .operator text p.line, { p with rest := rest.drop (text.length - 1) })
    | none => oneCharacter p c rest

/-! ## Whole texts -/

/-- The text behind blanks and a comment. -/
def skipBlanks (s : List Char) : List Char :=
  match s.dropWhile fun c => c = ' ' || c = '\t' || c = '\x0c' with
  | '#' :: rest => rest.dropWhile (· ≠ '\n')
  | rest => rest

/-- The tokens behind a place, and the fault that ends them.  The tokens that
follow on a line with nothing but blanks are those of the next; `fuel` bounds
the number of tokens and line ends. -/
def tokensFrom : Nat → Bool → Place → List Token × Option Fault
  | 0, _, _ => ([], none)
  | fuel + 1, isBlankLine, p =>
    if p.isLineStart then
      match indentation p {} p.rest with
      | .error e => ([], some e)
      | .ok (i, p) =>
        if p.rest.head?.any fun c => c = '#' || c = '\n' then tokensFrom fuel true p
        else if !p.brackets.isEmpty then tokensFrom fuel false p
        else match indentMarks p i with
          | .error e => ([], some e)
          | .ok (marks, p) =>
            let (tokens, fault) := tokensFrom fuel false p
            (marks ++ tokens, fault)
    else match skipBlanks p.rest with
      | [] =>
        if p.brackets.isEmpty then ([p.token .endMark [] p.line], none) else ([], some p.breaksOff)
      | '\n' :: rest =>
        let next := { p with rest, isLineStart := true,
                             line := if rest.isEmpty then p.line else p.line + 1 }
        if isBlankLine || !p.brackets.isEmpty then tokensFrom fuel false next
        else
          let (tokens, fault) := tokensFrom fuel false next
          (p.token .lineEnd [] p.line :: tokens, fault)
      | '\\' :: rest =>
        match rest with
        | '\n' :: c :: rest =>
          tokensFrom fuel isBlankLine { p with rest := c :: rest, line := p.line + 1 }
        | ['\n'] => ([], some p.breaksOff)
        | _ => ([], some p.badContinuation)
      | c :: rest =>
        match tokenAt p c rest with
        | .error e => ([], some e)
        | .ok (t, p) =>
          let (tokens, fault) := tokensFrom fuel isBlankLine p
          ({ t with seesEnd := p.rest.isEmpty && t.needsNext } :: tokens, fault)

/-- The tokens of a text that begins on a line, and the fault that ends them. -/
def tokensOf (line : Nat) (s : List Char) : List Token × Option Fault :=
  tokensFrom (2 * s.length + 2) false { rest := s, line }

end RoutePaths.Literal
