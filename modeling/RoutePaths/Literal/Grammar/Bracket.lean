import RoutePaths.Literal.Peg

/-!
# RoutePaths.Literal.Grammar.Bracket

The patterns of what stands in parentheses and braces: tuples, sets and dicts,
and what loops make of them.
-/

namespace RoutePaths.Literal.Grammar

open Peg

/-! ## Shorthands -/

/-- An expression. -/
def expression : Peg := rule .expression

/-- An expression, or a star and one. -/
def starExpression : Peg := rule .starExpression

/-- An expression without a condition. -/
def disjunction : Peg := rule .disjunction

/-- An expression without comparisons. -/
def bitOr : Peg := rule .bitOr

/-- An expression behind a star; a star without one is an error. -/
def starred : Peg :=
  node .starred (op "*" ++ expression) <|> always (op "*") "Invalid star expression"

/-- Expressions with commas between them: a tuple, unless it is one without a
comma. -/
def tupleOf (p : Peg) : Peg :=
  node .tuple (p ++ some1 (op "," ++ p) ++ opt (op ",")) <|> node .tuple (p ++ op ",") <|> p

/-- Expressions or stars with commas between them. -/
def starExpressions : Peg := tupleOf starExpression

/-! ## Names that are given values -/

/-- A name that is given the value of an expression. -/
def assignment : Peg := node .named (name ++ op ":=" ++ expression)

/-- An expression, or a name that is given its value. -/
def namedExpression : Peg :=
  assignment <|> wrong (rule .wrongNamed) <|> expression ++ notAhead (op ":=")

/-- A part of a tuple or a set. -/
def starNamed : Peg := node .starred (op "*" ++ bitOr) <|> namedExpression

/-- The parts of a tuple or a set. -/
def starNameds : Peg := listed starNamed ++ opt (op ",")

/-- The message about an equals sign that may be meant as a comparison. -/
def maybeEquals : String := "invalid syntax. Maybe you meant '==' or ':=' instead of '='?"

/-! ## Loops inside brackets -/

/-- What follows a part of a target that is not its last. -/
def targetLook : Peg := op "(" <|> op "."

/-- The targets of a loop. -/
def targets : Peg :=
  rule .target ++ notAhead (op ",") <|> listed (rule .target) ++ opt (op ",")

/-- A loop up to what it runs over. -/
def loopHead : Peg := opt (word "async") ++ word "for" ++ targets ++ word "in"

/-- Something that nothing can be assigned to. -/
def badTarget : List Expr → Nat → Option String
  | e :: _, _ => e.badTarget?.map fun bad => "cannot assign to " ++ bad.noun
  | [], _ => none

/-- A loop with its conditions. -/
def loop : Peg :=
  loopHead ++ disjunction ++ many (word "if" ++ disjunction)
    <|> notAhead loopHead
      ++ wrong (report (opt (word "async") ++ word "for" ++ starExpressions) badTarget)

/-- Loops inside each other. -/
def loops : Peg := silent (some1 loop)

/-! ## Brackets -/

/-- What a generator hands out. -/
def yielded : Peg :=
  node .yielded (word "yield" ++ word "from" ++ expression)
    <|> node .yielded (word "yield" ++ opt starExpressions)

/-- A tuple in parentheses. -/
def tuple : Peg := node .tuple (op "(" ++ opt (starNamed ++ op "," ++ opt starNameds) ++ op ")")

/-- An expression in parentheses. -/
def group : Peg :=
  op "(" ++ (yielded <|> namedExpression) ++ op ")"
    <|> wrong (always (op "(" ++ starred ++ op ")") "cannot use starred expression here"
      <|> always (op "(" ++ op "**" ++ expression ++ op ")")
        "cannot use double starred expression here")

/-- The message about a tuple that stands before a loop without parentheses. -/
def noParentheses : String := "did you forget parentheses around the comprehension target?"

/-- What cannot stand before a loop. -/
def wrongComprehension : Peg :=
  wrong (always ((op "(" <|> op "\x7b") ++ starred ++ loops)
      "iterable unpacking cannot be used in comprehension"
    <|> always (op "\x7b" ++ starNamed ++ op "," ++ starNameds ++ loops) noParentheses
    <|> always (op "\x7b" ++ starNamed ++ op "," ++ loops) noParentheses)

/-- A generator in parentheses. -/
def generator : Peg :=
  node .generator
      (op "(" ++ (assignment <|> expression ++ notAhead (op ":=")) ++ loops ++ op ")")
    <|> wrongComprehension

/-- A key and a value. -/
def pair : Peg := node .pair (expression ++ op ":" ++ expression)

/-- An entry of a dict, or a dict whose entries it takes over. -/
def dictEntry : Peg := node .spread (op "**" ++ bitOr) <|> pair

/-- The message about a star before the value of an entry. -/
def starredValue : String := "cannot use a starred expression in a dictionary value"

/-- The message about an entry without a value. -/
def noValue : String := "expression expected after dictionary key and ':'"

/-- Entries of which one is wrong. -/
def wrongEntries : Peg :=
  listed dictEntry ++ op ","
      ++ (always (expression ++ notAhead (op ":")) "':' expected after dictionary key"
        <|> always (expression ++ op ":" ++ op "*" ++ bitOr) starredValue
        <|> always (expression ++ op ":" ++ ahead (op "\x7d" <|> op ",")) noValue)
    <|> always (expression ++ op ":" ++ op "*" ++ bitOr) starredValue
    <|> always (expression ++ op ":" ++ ahead (op "\x7d" <|> op ",")) noValue

/-- A dict. -/
def dict : Peg :=
  node .dict (op "\x7b" ++ opt (listed dictEntry ++ opt (op ",")) ++ op "\x7d")
    <|> op "\x7b" ++ wrongEntries ++ op "\x7d"

/-- A set. -/
def set : Peg := node .set (op "\x7b" ++ starNameds ++ op "\x7d")

/-- A dict made by loops. -/
def dictComprehension : Peg :=
  node .dictComprehension (op "\x7b" ++ pair ++ loops ++ op "\x7d")
    <|> wrong (always (op "\x7b" ++ op "**" ++ bitOr ++ loops ++ op "\x7d")
      "dict unpacking cannot be used in dict comprehension")

/-- A set made by loops. -/
def setComprehension : Peg :=
  node .setComprehension (op "\x7b" ++ namedExpression ++ loops ++ op "\x7d")
    <|> wrongComprehension

end RoutePaths.Literal.Grammar
