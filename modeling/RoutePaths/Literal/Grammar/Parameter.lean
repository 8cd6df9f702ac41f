import RoutePaths.Literal.Grammar.Bracket

/-!
# RoutePaths.Literal.Grammar.Parameter

The patterns of functions without a name and of their parameters.  Behind a
parameter that can be left out all can be, up to a star.
-/

namespace RoutePaths.Literal.Grammar

open Peg

/-- The end of a parameter. -/
def parameterEnd : Peg := op "," <|> ahead (op ":")

/-- The value of a parameter that is left out. -/
def default : Peg :=
  op "=" ++ expression
    <|> wrong (always (op "=" ++ ahead (op ")" <|> op ",")) "expected default value expression")

/-- A parameter that cannot be left out. -/
def bareParameter : Peg := name ++ parameterEnd

/-- A parameter that can be left out. -/
def defaultParameter : Peg := name ++ default ++ parameterEnd

/-- A parameter. -/
def anyParameter : Peg := name ++ opt default ++ parameterEnd

/-- The mark behind parameters that have no names for a caller. -/
def slash : Peg := op "/" ++ op "," <|> op "/" ++ ahead (op ":")

/-- Parameters before the mark, none of which can be left out. -/
def slashBare : Peg := some1 bareParameter ++ slash

/-- Parameters before the mark, of which some can be left out. -/
def slashDefault : Peg := many bareParameter ++ some1 defaultParameter ++ slash

/-- The message about a parameter behind the last one there can be. -/
def behindSpread : String := "arguments cannot follow var-keyword argument"

/-- The parameter that takes all other arguments by name. -/
def parameterSpread : Peg :=
  wrong (always (op "**" ++ name ++ op "=") "var-keyword argument cannot have default value"
      <|> always (op "**" ++ name ++ op "," ++ name) behindSpread
      <|> always (op "**" ++ name ++ op "," ++ (op "*" <|> op "**" <|> op "/")) behindSpread)
    <|> op "**" ++ bareParameter

/-- The parameter that takes all other arguments by place, and those behind it. -/
def parameterStar : Peg :=
  wrong (always (op "*" ++ (op ":" <|> op "," ++ (op ":" <|> op "**")))
        "named arguments must follow bare *"
      <|> always (op "*" ++ name ++ op "=") "var-positional argument cannot have default value"
      <|> always (op "*" ++ (bareParameter <|> op ",") ++ many anyParameter ++ op "*"
          ++ (bareParameter <|> op ","))
        "* argument may appear only once")
    <|> op "*" ++ bareParameter ++ many anyParameter ++ opt parameterSpread
    <|> op "*" ++ op "," ++ some1 anyParameter ++ opt parameterSpread
    <|> parameterSpread

/-- Parameters that cannot stand beside each other. -/
def wrongParameters : Peg :=
  wrong (always (many bareParameter ++ (slashDefault <|> some1 defaultParameter) ++ bareParameter)
      "non-default argument follows default argument"
    <|> always (many bareParameter ++ op "(" ++ listed name ++ opt (op ",") ++ op ")")
      "Lambda expression parameters cannot be parenthesized"
    <|> always (op "/" ++ op ",") "at least one argument must precede /"
    <|> always ((slashBare <|> slashDefault) ++ many anyParameter ++ op "/")
      "/ may appear only once"
    <|> always (opt (slashBare <|> slashDefault) ++ many anyParameter ++ op "*"
        ++ (op "," <|> bareParameter) ++ many anyParameter ++ op "/")
      "/ must be ahead of *"
    <|> always (some1 anyParameter ++ op "/" ++ op "*") "expected comma between / and *")

/-- Parameters. -/
def parameters : Peg :=
  wrongParameters
    <|> slashBare ++ many bareParameter ++ many defaultParameter ++ opt parameterStar
    <|> slashDefault ++ many defaultParameter ++ opt parameterStar
    <|> some1 bareParameter ++ many defaultParameter ++ opt parameterStar
    <|> some1 defaultParameter ++ opt parameterStar
    <|> parameterStar

/-- A function without a name. -/
def lambda : Peg := node .lambda (word "lambda" ++ opt parameters ++ op ":" ++ expression)

end RoutePaths.Literal.Grammar
