import RoutePaths.Literal.Grammar
import RoutePaths.Text.Utf8
import Std.Data.HashMap

/-!
# RoutePaths.Literal.Reader

Reading a text as an expression:

1. what a rule reads at a place is found once and kept;
2. a text of which the first reading gives nothing is read again with the
   patterns of what is wrong, and if none of them tells why it is no
   expression, nothing more is said than that;
3. a fault among the tokens that were looked at is the error; one behind them
   is, if it is grave, or if it leaves a bracket of an earlier line open.
-/

namespace RoutePaths.Literal

/-! ## Reading -/

/-- What a pattern reads: expressions and the place behind it, or nothing. -/
abbrev Found := Option (List Expr × Nat)

/-- What is known while a text is read. -/
structure Progress where
  /-- What rules have been found to read at places. -/
  known : Std.HashMap (Rule × Nat) Found := {}
  /-- The last token that was looked at. -/
  reach : Nat := 0

/-- Why reading stops. -/
inductive Stop where
  /-- There is a fault among the tokens. -/
  | fault (f : Fault)
  /-- The tokens make no expression. -/
  | wrong (message : String)
  deriving Repr, DecidableEq, Inhabited

/-- A reading that may stop. -/
abbrev Reading := ExceptT Stop (StateM Progress)

/-- The tokens of a text and what ends them. -/
structure Source where
  tokens : Array Token
  fault : Option Fault
  /-- What messages begin with. -/
  lead : String := ""

/-- The token at a place. -/
def Source.token? (s : Source) (place : Nat) : Reading (Option Token) :=
  match s.tokens[place]? with
  | some t => do
    modify fun p => { p with reach := max p.reach place }
    return some t
  | none =>
    match s.fault with
    | some f => throw (.fault f)
    | none => return none

/-- The number of brackets that are open behind the token before a place. -/
def Source.depthBefore (s : Source) (place : Nat) : Nat :=
  ((s.tokens[place - 1]?).map Token.depth).getD 0

/-- What a pattern reads from a place on; `fuel` bounds the depth of patterns
inside each other. -/
def read (body : Rule → Peg) (s : Source) : Nat → Bool → Peg → Nat → Reading Found
  | 0, _, _, _ => return none
  | fuel + 1, isSecond, pattern, place =>
    match pattern with
    | .token accepts value => do
      match ← s.token? place with
      | none => return none
      | some t => return if accepts t then some (value t, place + 1) else none
    | .rule r => do
      match (← get).known[(r, place)]? with
      | some found => return found
      | none =>
        let found ← read body s fuel isSecond (body r) place
        modify fun p => { p with known := p.known.insert (r, place) found }
        return found
    | .nothing => return some ([], place)
    | .both p q => do
      match ← read body s fuel isSecond p place with
      | none => return none
      | some (es, place) =>
        return (← read body s fuel isSecond q place).map fun (fs, place) => (es ++ fs, place)
    | .either p q => do
      match ← read body s fuel isSecond p place with
      | some found => return some found
      | none => read body s fuel isSecond q place
    | .many p => do
      match ← read body s fuel isSecond p place with
      | none => return some ([], place)
      | some (es, next) =>
        if next ≤ place then return some ([], place)
        else
          return (← read body s fuel isSecond (.many p) next).map fun (fs, place) =>
            (es ++ fs, place)
    | .ahead p => return (← read body s fuel isSecond p place).map fun _ => ([], place)
    | .notAhead p => do
      match ← read body s fuel isSecond p place with
      | none => return some ([], place)
      | some _ => return none
    | .build p make =>
      return (← read body s fuel isSecond p place).map fun (es, place) => (make es, place)
    | .check p message? => do
      match ← read body s fuel isSecond p place with
      | none => return none
      | some (es, next) =>
        match message? (s.tokens.toList.drop place |>.take (next - place)) with
        | some message => throw (.wrong message)
        | none => return some (es, next)
    | .wrong p => if isSecond then read body s fuel isSecond p place else return none
    | .report p message? => do
      match ← read body s fuel isSecond p place with
      | none => return none
      | some (es, place) =>
        match message? es (s.depthBefore place) with
        | some message => throw (.wrong message)
        | none => return none
    | .plain p => read body s fuel false p place

/-! ## Errors -/

namespace Source

/-- What is said of a text that makes no expression. -/
def noExpression : String := "invalid syntax"

/-- The message of a fault. -/
def faultMessage (s : Source) (f : Fault) : String :=
  if f.isGrave then f.message else s.lead ++ f.message

/-- The error of a text of which the tokens up to `reach` were looked at and are
wrong. -/
def laterFault (s : Source) (reach : Nat) (message : String) : String :=
  match s.fault with
  | none => s.lead ++ message
  | some f =>
    if f.isGrave then f.message
    else match f.bracket with
      | none => s.lead ++ message
      | some (bracket, line) =>
        s.lead ++ if line < ((s.tokens[reach]?).map Token.line).getD 0 then neverClosed bracket
          else message

/-- The error of a text of which a pattern tells what is wrong; where the end of
the text has been seen, no other is looked for. -/
def wrong (s : Source) (reach : Nat) (message : String) : String :=
  if (s.tokens[reach]?).any Token.seesEnd then s.lead ++ message else s.laterFault reach message

/-- The error of a text of which the first reading gave nothing. -/
def secondReading (body : Rule → Peg) (start : Peg) (s : Source) (fuel reach : Nat) : String :=
  let (result, progress) := (read body s fuel true start 0).run { reach }
  match result with
  | .error (.fault f) => s.faultMessage f
  | .error (.wrong message) => s.wrong progress.reach message
  | .ok _ =>
    match (s.tokens[reach]?).map Token.kind with
    | some .indent => "unexpected indent"
    | some .dedent => "unexpected unindent"
    | _ => s.laterFault progress.reach noExpression

/-- The expression that a pattern reads from a text that begins on a line, or
why it reads none. -/
def expression (body : Rule → Peg) (start : Peg) (lead : String) (line : Nat) (text : List Char) :
    Except String Expr :=
  let (tokens, fault) := tokensOf line text
  let s : Source := ⟨tokens.toArray, fault, lead⟩
  let fuel := 1000 * (tokens.length + 2)
  let (result, progress) := (read body s fuel false start 0).run {}
  match result with
  | .ok (some (e :: _, _)) => .ok e
  | .ok _ => .error (s.secondReading body start fuel progress.reach)
  | .error (.fault f) => .error (s.faultMessage f)
  | .error (.wrong message) => .error (s.wrong progress.reach message)

end Source

/-- What is wrong with an expression that begins on a line in a string; `depth`
bounds the number of strings inside each other. -/
def insideFault? : Nat → Nat → List Char → Option String
  | 0, _, _ => none
  | depth + 1, line, text =>
    match Source.expression (Grammar.body (insideFault? depth)) Grammar.starExpressions "f-string: "
        line ('(' :: text ++ [')', '\n']) with
    | .ok _ => none
    | .error message => some message

/-- The expression that a text spells, or why it spells none. -/
def Expr.read (text : List Char) : Except String Expr :=
  if text.contains '\x00' then .error "source code string cannot contain null bytes"
  else
    Source.expression (Grammar.body (insideFault? text.length)) Grammar.start "" 1
      (Text.plainNewlines text)

end RoutePaths.Literal
