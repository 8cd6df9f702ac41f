import RoutePaths.Literal.Grammar.Bracket

/-!
# RoutePaths.Literal.Grammar.Argument

The patterns of the arguments of a call.  Arguments by place stand before those
by name; a star hands over many by place, and two stars many by name.
-/

namespace RoutePaths.Literal.Grammar

open Peg

/-- The arguments that are read as one expression. -/
def argumentList (p : Peg) : Peg := node .arguments p

/-- What cannot stand before the equals sign of an argument. -/
def wrongKeyword : Peg :=
  wrong (report (token (fun t => t.isWord "True" || t.isWord "False" || t.isWord "None")
        (fun t => [.leaf .constant t.text]) ++ op "=")
      (fun es _ => es.head?.map fun e => "cannot assign to " ++ e.noun)
    <|> always (name ++ op "=" ++ expression ++ loops) maybeEquals
    <|> always (notAhead (name ++ op "=") ++ expression ++ op "=")
      "expression cannot contain assignment, perhaps you meant \"==\"?")

/-- An argument by name. -/
def keyword : Peg := node .keyword (name ++ op "=" ++ expression)

/-- An argument by name, or behind a star. -/
def keywordOrStarred : Peg := wrongKeyword <|> keyword <|> starred

/-- An argument by name, or behind two stars. -/
def keywordOrSpread : Peg := wrongKeyword <|> keyword <|> node .spread (op "**" ++ expression)

/-- Arguments from the first one by name on. -/
def keywords : Peg :=
  listed keywordOrStarred ++ op "," ++ listed keywordOrSpread
    <|> listed keywordOrStarred
    <|> listed keywordOrSpread

/-- An argument by place. -/
def positional : Peg :=
  starred <|> (assignment <|> expression ++ notAhead (op ":=")) ++ notAhead (op "=")

/-- Arguments without a comma behind them. -/
def argumentsBare : Peg := listed positional ++ opt (op "," ++ keywords) <|> keywords

/-- The message about a generator among other arguments. -/
def generatorAlone : String := "Generator expression must be parenthesized"

/-- More than one argument by place stands before a loop. -/
def manyBeforeLoop : List Expr → Nat → Option String
  | list :: _, _ =>
    if 1 < (list.parts.filter fun e => !decide (e.shape = .keyword ∨ e.shape = .spread)).length then
      some generatorAlone
    else none
  | [], _ => none

/-- An argument by place stands behind one by name. -/
def placeBehindName : List Expr → Nat → Option String
  | list :: _, _ => some (if list.parts.any fun e => decide (e.shape = .spread) then
      "positional argument follows keyword argument unpacking"
    else "positional argument follows keyword argument")
  | [], _ => none

/-- Arguments that cannot stand beside each other. -/
def wrongArguments : Peg :=
  wrong (always ((listed positional ++ op "," ++ keywords <|> keywords) ++ op ","
        ++ listed (starred ++ notAhead (op "=")))
      "iterable argument unpacking follows keyword argument unpacking"
    <|> always (expression ++ loops ++ op "," ++ opt (argumentsBare <|> expression ++ loops))
      generatorAlone
    <|> always (name ++ op "=" ++ expression ++ loops) maybeEquals
    <|> report (argumentList argumentsBare ++ loops) manyBeforeLoop
    <|> always (argumentsBare ++ op "," ++ expression ++ loops) generatorAlone
    <|> report (argumentList argumentsBare ++ op "," ++ argumentsBare) placeBehindName)

end RoutePaths.Literal.Grammar
