import RoutePaths.Literal.Value
import RoutePaths.Text.Word

/-!
# RoutePaths.Console.Handler

The arguments of the handlers of events: a literal, or the name of an action,
behind which a literal in parentheses may stand.
-/

namespace RoutePaths.Console

/-- Why the arguments of a handler cannot be read. -/
inductive HandlerError where
  /-- What stands for the literal is no expression. -/
  | unreadable (expression arguments : List Char) (reason : String)
  /-- The expression is no literal. -/
  | noLiteral (arguments : List Char) (reason : Literal.NoLiteral)
  deriving Repr, DecidableEq, Inhabited

/-- The wording of an error. -/
def HandlerError.message : HandlerError → String
  | unreadable expression arguments reason =>
    "error parsing " ++ String.ofList (Text.showQuoted expression) ++ " in "
      ++ String.ofList (Text.showQuoted arguments) ++ "; " ++ reason
  | noLiteral arguments reason =>
    "error parsing " ++ String.ofList (Text.showQuoted arguments) ++ "; " ++ reason.message

/-- Whether a text is in parentheses, all of it on one line. -/
def isParenthesized (s : List Char) : Bool :=
  s.head? = some '(' && s.getLast? = some ')' && 2 ≤ s.length && !s.contains '\n'

/-- What stands for the literal in arguments without blanks around them; an
action with nothing behind it has no arguments of its own. -/
def handlerExpression (s : List Char) : List Char :=
  let behind := s.dropWhile fun c => Text.isWord c || c = '.'
  if behind = [] then ['(', ')'] else if isParenthesized behind then behind else s

/-- Why the arguments of a handler cannot be read. -/
def handlerError? (arguments : List Char) : Option HandlerError :=
  if arguments = [] then none
  else
    let expression := handlerExpression (Text.trim arguments)
    match Literal.Expr.read (expression.dropWhile fun c => c = ' ' || c = '\t') with
    | .error reason => some (.unreadable expression arguments reason)
    | .ok e => e.noLiteral?.map (.noLiteral arguments)

end RoutePaths.Console
