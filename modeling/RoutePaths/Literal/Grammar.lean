import RoutePaths.Literal.Grammar.Argument
import RoutePaths.Literal.Grammar.Parameter
import RoutePaths.Literal.StringValue

/-!
# RoutePaths.Literal.Grammar

The patterns of expressions, from the loosest to the tightest binding, and
beside them the patterns of what is easily got wrong, with what is said about
it.
-/

namespace RoutePaths.Literal.Grammar

open Peg

/-! ## Atoms -/

/-- A constant. -/
def constant (text : String) : Peg :=
  token (Token.isWord text) fun t => [.leaf .constant t.text]

/-- A number. -/
def number : Peg :=
  build (check (kind .number (.number .integer)) fun ts => ts.findSome? fun t =>
      numeralFault? t.text)
    fun es => es.map fun e => .leaf (.number (NumberKind.ofText e.text)) e.text

/-- An expression that no operator and no suffix makes longer. -/
def atom : Peg :=
  name <|> constant "True" <|> constant "False" <|> constant "None"
    <|> ahead (kind .string .text) ++ rule .strings
    <|> number
    <|> ahead (op "(") ++ (tuple <|> group <|> generator)
    <|> ahead (op "\x7b") ++ (dict <|> set <|> dictComprehension <|> setComprehension)
    <|> token (Token.isOperator "...") fun _ => [.leaf .ellipsis []]

/-- What may stand behind an expression to make it a longer one. -/
def suffix : Peg :=
  node .member (op "." ++ name) <|> node .call generator
    <|> node .call (op "(" ++ opt (rule .arguments) ++ op ")")

/-- An expression and its suffixes as one. -/
def attach : List Expr → List Expr
  | [] => []
  | e :: suffixes => [suffixes.foldl (fun e s => s.withFirst e) e]

/-! ## Operators -/

/-- A comparison; what begins with a test of membership can stand in a loop. -/
def comparison : Peg :=
  let plainOperator : Peg :=
    op "==" <|> op "!=" <|> op "<=" <|> op "<" <|> op ">=" <|> op ">" <|> word "not" ++ word "in"
  let isOperator : Peg := word "is" ++ word "not" <|> word "is"
  let membership : Peg := build (word "in") fun _ => [.leaf .mark ['i', 'n']]
  let other (p : Peg) : Peg := build p fun _ => [.leaf .mark []]
  build (bitOr ++ many ((other plainOperator <|> membership <|> other isOperator) ++ bitOr)) fun
    | [e] => [e]
    | e :: mark :: es => [.node (if mark.text = [] then .comparison else .membership) (e :: es)]
    | [] => []

/-- Whether an expression is a name that once began a statement. -/
def isOldStatement (e : Expr) : Bool :=
  decide (e.shape = .name) && ["print", "exec"].contains (String.ofList e.text)

/-- Two expressions side by side. -/
def sideBySide : List Expr → Nat → Option String
  | e :: _, depth =>
    if isOldStatement e || depth = 0 then none
    else some "invalid syntax. Perhaps you forgot a comma?"
  | [], _ => none

/-- A name that once began a statement, and what it is about. -/
def oldStatement : List Expr → Nat → Option String
  | e :: _, _ =>
    let text := String.ofList e.text
    if isOldStatement e then
      some ("Missing parentheses in call to '" ++ text ++ "'. Did you mean " ++ text ++ "(...)?")
    else none
  | [], _ => none

/-- An expression without patterns of what is wrong. -/
def plainExpression : Peg :=
  plain (disjunction ++ word "if" ++ disjunction ++ word "else" ++ expression
    <|> disjunction <|> lambda)

/-- A name with which a word begins that is a keyword in some places. -/
def softWord : Peg :=
  token (fun t => t.isName && ["_", "case", "match"].any (t.text.isPrefixOf ·.toList)) fun _ => []

/-- The pattern of a rule; `inside` tells what is wrong with an expression on a
line in a string. -/
def body (inside : Nat → List Char → Option String) : Rule → Peg
  | .expression =>
    wrong (report (notAhead (name ++ kind .string .text <|> softWord) ++ disjunction
          ++ plainExpression) sideBySide
        <|> always (disjunction ++ word "if" ++ disjunction
          ++ notAhead (word "else" <|> op ":")) "expected 'else' after 'if' expression"
        <|> report (name ++ notAhead (op "(") ++ starExpressions) oldStatement)
      <|> node .conditional (disjunction ++ word "if" ++ disjunction ++ word "else" ++ expression)
      <|> disjunction
      <|> lambda
  | .starExpression => node .starred (op "*" ++ bitOr) <|> expression
  | .disjunction => chain .boolean (word "or") (rule .conjunction)
  | .conjunction => chain .boolean (word "and") (rule .inversion)
  | .inversion => node .unary (word "not" ++ rule .inversion) <|> comparison
  | .bitOr => chain .binary (op "|") (rule .bitXor)
  | .bitXor => chain .binary (op "^") (rule .bitAnd)
  | .bitAnd => chain .binary (op "&") (rule .shift)
  | .shift => chain .binary (op "<<" <|> op ">>") (rule .sum)
  | .sum => chain .sum (op "+" <|> op "-") (rule .term)
  | .term => chain .binary (op "*" <|> op "/" <|> op "//" <|> op "%" <|> op "@") (rule .factor)
  | .factor =>
    node .sign (op "+" ++ rule .factor) <|> node .sign (op "-" ++ rule .factor)
      <|> node .unary (op "~" ++ rule .factor)
      <|> node .binary (rule .awaited ++ op "**" ++ rule .factor) <|> rule .awaited
  | .awaited => node .awaited (word "await" ++ rule .primary) <|> rule .primary
  | .primary => build (atom ++ many suffix) attach
  | .strings => build (check (some1 (kind .string .text)) (stringsFault? inside)) joinStrings
  | .arguments => argumentsBare ++ opt (op ",") ++ ahead (op ")") <|> wrongArguments
  | .wrongNamed =>
    report (expression ++ op ":=" ++ expression)
        (fun es _ => es.head?.map fun e => "cannot use assignment expressions with " ++ e.noun)
      <|> always (name ++ op "=" ++ bitOr ++ notAhead (op "=" <|> op ":=")) maybeEquals
      <|> report (notAhead (tuple <|> generator <|> word "True" <|> word "None" <|> word "False")
          ++ bitOr ++ op "=" ++ bitOr ++ notAhead (op "=" <|> op ":="))
        (fun es _ => es.head?.map fun e =>
          "cannot assign to " ++ e.noun ++ " here. Maybe you meant '==' instead of '='?")
  | .target => op "*" ++ notAhead (op "*") ++ rule .target <|> rule .targetAtom
  | .targetAtom =>
    rule .targetPrimary ++ op "." ++ name ++ notAhead targetLook
      <|> name
      <|> op "(" ++ rule .targetAtom ++ op ")"
      <|> op "(" ++ opt (rule .target ++ some1 (op "," ++ rule .target) ++ opt (op ",")
        <|> rule .target ++ op ",") ++ op ")"
  | .targetPrimary => atom ++ ahead targetLook ++ many (suffix ++ ahead targetLook)

/-- A whole text. -/
def start : Peg :=
  tupleOf expression ++ silent (many (kind .lineEnd .mark)) ++ silent (kind .endMark .mark)

end RoutePaths.Literal.Grammar
