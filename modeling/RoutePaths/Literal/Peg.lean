import RoutePaths.Literal.Expr

/-!
# RoutePaths.Literal.Peg

Patterns that read expressions from tokens, as data.  A pattern reads the
tokens from a place on in one way or not at all: of alternatives the first one
that reads something is taken, and a repetition goes on as long as it can.
What it reads gives a list of expressions.

Some patterns read what is wrong, to tell why a text is no expression.  Most of
them are tried only in a second reading of a text of which the first gave
nothing.
-/

namespace RoutePaths.Literal

/-- Patterns that refer to each other by name. -/
inductive Rule where
  | expression
  | starExpression
  | disjunction
  | conjunction
  | inversion
  | bitOr
  | bitXor
  | bitAnd
  | shift
  | sum
  | term
  | factor
  | awaited
  | primary
  | strings
  | arguments
  | wrongNamed
  | target
  | targetAtom
  | targetPrimary
  deriving Repr, DecidableEq, Inhabited, Hashable

/-- Patterns of tokens. -/
inductive Peg where
  /-- One token of a kind, which may give an expression. -/
  | token (accepts : Token → Bool) (value : Token → List Expr)
  | rule (r : Rule)
  /-- No token at all. -/
  | nothing
  | both (p q : Peg)
  | either (p q : Peg)
  | many (p : Peg)
  /-- What the pattern would read stands here; it is not read. -/
  | ahead (p : Peg)
  /-- What the pattern would read does not stand here. -/
  | notAhead (p : Peg)
  /-- The expressions made of those that were read. -/
  | build (p : Peg) (make : List Expr → List Expr)
  /-- It is an error if a message is found for the tokens that were read. -/
  | check (p : Peg) (message? : List Token → Option String)
  /-- A pattern of the second reading only. -/
  | wrong (p : Peg)
  /-- It is an error if a message is found for what was read and the number of
  brackets that are open behind its last token, and otherwise nothing is
  read. -/
  | report (p : Peg) (message? : List Expr → Nat → Option String)
  /-- A pattern inside which nothing is tried that is for the second reading
  only. -/
  | plain (p : Peg)

namespace Peg

instance : Append Peg := ⟨both⟩

instance : OrElse Peg := ⟨fun p q => either p (q ())⟩

/-- The pattern, or no token. -/
def opt (p : Peg) : Peg := either p nothing

/-- The pattern at least once. -/
def some1 (p : Peg) : Peg := p ++ many p

/-- An operator. -/
def op (text : String) : Peg := token (Token.isOperator text) fun _ => []

/-- A keyword. -/
def word (text : String) : Peg := token (Token.isWord text) fun _ => []

/-- A name. -/
def name : Peg := token Token.isName fun t => [.leaf .name t.text]

/-- A token of a kind. -/
def kind (k : Kind) (shape : Shape) : Peg :=
  token (fun t => decide (t.kind = k)) fun t => [.leaf shape t.text]

/-- The pattern as one expression of a shape. -/
def node (shape : Shape) (p : Peg) : Peg := build p fun es => [.node shape es]

/-- The pattern without expressions. -/
def silent (p : Peg) : Peg := build p fun _ => []

/-- Patterns with commas between them. -/
def listed (p : Peg) : Peg := p ++ many (op "," ++ p)

/-- Operands with operators between them; one alone is itself. -/
def chain (shape : Shape) (operators operand : Peg) : Peg :=
  build (operand ++ many (operators ++ operand)) fun
    | [e] => [e]
    | es => [.node shape es]

/-- What the pattern reads is always an error. -/
def always (p : Peg) (message : String) : Peg := report p fun _ _ => some message

end Peg

end RoutePaths.Literal
