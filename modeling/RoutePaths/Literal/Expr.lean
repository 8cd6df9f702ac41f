import RoutePaths.Literal.Lexer

/-!
# RoutePaths.Literal.Expr

Expressions, as far as it matters whether they are literals and what messages
call them.
-/

namespace RoutePaths.Literal

/-- What an expression is. -/
inductive Shape where
  | name
  | number (kind : NumberKind)
  | text
  | bytes
  | format
  | constant
  | ellipsis
  | tuple
  | set
  | dict
  | pair
  | spread
  | sign
  | unary
  | sum
  | binary
  | boolean
  | comparison
  | membership
  | conditional
  | lambda
  | call
  | member
  | generator
  | setComprehension
  | dictComprehension
  | named
  | yielded
  | awaited
  | starred
  | keyword
  | arguments
  | mark
  deriving Repr, DecidableEq, Inhabited

/-- An expression: its shape, its text if it has one, and its parts. -/
inductive Expr where
  | mk (shape : Shape) (text : List Char) (parts : List Expr)
  deriving Repr, Inhabited

namespace Expr

/-- The shape of an expression. -/
def shape : Expr → Shape
  | mk shape _ _ => shape

/-- The text of an expression. -/
def text : Expr → List Char
  | mk _ text _ => text

/-- The parts of an expression. -/
def parts : Expr → List Expr
  | mk _ _ parts => parts

/-- An expression without parts. -/
def leaf (shape : Shape) (text : List Char) : Expr := mk shape text []

/-- An expression without a text. -/
def node (shape : Shape) (parts : List Expr) : Expr := mk shape [] parts

/-- The expression with another part in front. -/
def withFirst (e first : Expr) : Expr := mk e.shape e.text (first :: e.parts)

/-- What messages call an expression. -/
def noun (e : Expr) : String :=
  match e.shape with
  | .name => "name"
  | .number _ | .text | .bytes => "literal"
  | .format => "f-string expression"
  | .constant => String.ofList e.text
  | .ellipsis => "ellipsis"
  | .tuple => "tuple"
  | .set => "set display"
  | .dict => "dict literal"
  | .sign | .unary | .sum | .binary | .boolean => "expression"
  | .comparison | .membership => "comparison"
  | .conditional => "conditional expression"
  | .lambda => "lambda"
  | .call => "function call"
  | .member => "attribute"
  | .generator => "generator expression"
  | .setComprehension => "set comprehension"
  | .dictComprehension => "dict comprehension"
  | .named => "named expression"
  | .yielded => "yield expression"
  | .awaited => "await expression"
  | .starred => "starred"
  | .pair | .spread | .keyword | .arguments | .mark => "expression"

mutual

/-- The first part of an expression that nothing can be assigned to in a
loop. -/
def badTarget? : Expr → Option Expr
  | mk .tuple _ parts => badTargetOf? parts
  | mk .starred _ parts => badTargetOf? parts
  | mk .membership _ (first :: _) => badTarget? first
  | mk .comparison _ _ => none
  | mk .name _ _ => none
  | mk .member _ _ => none
  | e => some e

/-- The first part of expressions that nothing can be assigned to in a loop. -/
def badTargetOf? : List Expr → Option Expr
  | [] => none
  | e :: es => (badTarget? e).or (badTargetOf? es)

end

end Expr

end RoutePaths.Literal
