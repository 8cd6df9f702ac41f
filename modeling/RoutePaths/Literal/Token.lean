import RoutePaths.Text.Identifier
import RoutePaths.Text.Printable

/-!
# RoutePaths.Literal.Token

Tokens of expressions: names, numbers, strings, operators, and the marks of
line ends, of indentation and of the end.  The square bracket is no operator:
an expression stands inside a tag, and a tag ends at the first one.
-/

namespace RoutePaths.Literal

/-- What a token is. -/
inductive Kind where
  | name
  | number
  | string
  | operator
  | lineEnd
  | indent
  | dedent
  | endMark
  deriving Repr, DecidableEq, Inhabited

/-- A token of an expression. -/
structure Token where
  kind : Kind
  text : List Char := []
  /-- The number of brackets that are open behind it. -/
  depth : Nat
  /-- The line that it begins on. -/
  line : Nat
  /-- Whether the end of the text was seen when it was read. -/
  seesEnd : Bool := false
  deriving Repr, DecidableEq, Inhabited

/-- Why a text has no further token. -/
structure Fault where
  message : String
  /-- Whether the fault counts more than an expression that is wrong before
  it. -/
  isGrave : Bool
  /-- The innermost bracket that is open there, and its line. -/
  bracket : Option (Char × Nat) := none
  deriving Repr, DecidableEq, Inhabited

/-- The message about a bracket that is not closed. -/
def neverClosed (bracket : Char) : String :=
  String.ofList ['\'', bracket, '\''] ++ " was never closed"

/-- The words that are no names. -/
def keywords : List (List Char) :=
  ["False", "None", "True", "and", "as", "assert", "async", "await", "break", "class", "continue",
   "def", "del", "elif", "else", "except", "finally", "for", "from", "global", "if", "import",
   "in", "is", "lambda", "nonlocal", "not", "or", "pass", "raise", "return", "try", "while",
   "with", "yield"].map String.toList

/-- The operators of two and three characters. -/
def longOperators : List (List Char) :=
  ["**=", "//=", "<<=", ">>=", "!=", "%=", "&=", "**", "*=", "+=", "-=", "->", "//", "/=", ":=",
   "<<", "<=", "<>", "==", ">=", ">>", "@=", "^=", "|="].map String.toList

namespace Token

/-- Whether a token is a name. -/
def isName (t : Token) : Bool := t.kind = .name && !keywords.contains t.text

/-- Whether a token is a keyword. -/
def isWord (word : String) (t : Token) : Bool := t.kind = .name && t.text = word.toList

/-- Whether the character behind a token has to be seen to know where the token
ends: not behind a string, unless its two quotes could be the first of three,
nor behind an operator of three characters. -/
def needsNext (t : Token) : Bool :=
  match t.kind with
  | .name | .number => true
  | .operator => t.text.length < 3
  | .string => (t.text.dropWhile Char.isAlpha).length = 2
  | _ => false

/-- Whether a token is an operator. -/
def isOperator (text : String) (t : Token) : Bool := t.kind = .operator && t.text = text.toList

end Token

end RoutePaths.Literal
