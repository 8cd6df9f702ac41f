import RoutePaths.Json.Printer
import RoutePaths.Yaml.Scalar

/-!
# RoutePaths.Yaml.Printer

JSON values as YAML text in block style:

1. a mapping inside another is indented by two columns; a sequence that is the
   value of a key stands at the column of the key;
2. a scalar is folded at a single space once a line is longer than eighty
   columns, between double quotes anywhere with a backslash;
3. a key that is empty, has several lines, or has 123 characters or more is
   marked by a question mark and has its value on a line of its own;
4. an empty sequence or mapping is two brackets.
-/

namespace RoutePaths.Yaml

/-! ## The pen -/

/-- Where the text written so far ends. -/
structure Pen where
  /-- The text, last character first. -/
  written : List Char := []
  /-- The column after the last character. -/
  column : Nat := 0
  /-- Whether an indicator may follow without a space. -/
  spaced : Bool := true
  /-- Whether the line holds nothing but indentation and indicators. -/
  atMargin : Bool := true
  deriving Repr, Inhabited

namespace Pen

/-- Write characters of a scalar. -/
def write (pen : Pen) (s : List Char) : Pen :=
  { pen with written := s.reverse ++ pen.written, column := pen.column + s.length }

/-- End the line with a break. -/
def lineBreak (pen : Pen) (c : Char) : Pen :=
  ⟨c :: pen.written, 0, true, true⟩

/-- Go to a column of a line that holds only indentation and indicators, of a
new one if need be. -/
def indentTo (pen : Pen) (indent : Nat) : Pen :=
  let pen :=
    if !pen.atMargin || indent < pen.column || (pen.column = indent && !pen.spaced) then
      pen.lineBreak '\n'
    else pen
  if pen.column < indent then
    { pen.write (List.replicate (indent - pen.column) ' ') with spaced := true }
  else pen

/-- Write an indicator, after a space if it must not touch what stands before;
`keepsMargin` for those that may stand in front of a key. -/
def indicator (pen : Pen) (s : List Char) (needsSpace keepsMargin : Bool) : Pen :=
  let pen' := pen.write (if needsSpace && !pen.spaced then ' ' :: s else s)
  { pen' with spaced := false, atMargin := pen.atMargin && keepsMargin }

/-- The pen in the middle of a scalar. -/
def inScalar (pen : Pen) : Pen := { pen with spaced := false, atMargin := false }

end Pen

/-! ## Scalars -/

/-- The column after which lines are folded. -/
def foldColumn : Nat := 80

/-- What kind of run a character belongs to. -/
def runKind (c : Char) : Nat := if c = ' ' then 0 else if isBreak c then 1 else 2

/-- The longest runs of spaces, of breaks, and of other characters. -/
def runs (s : List Char) : List (List Char) := s.splitBy fun a b => runKind a = runKind b

/-- Write the runs of an unquoted scalar; it has no breaks. -/
def plainRuns (folds : Bool) (indent : Nat) : List (List Char) → Pen → Pen
  | [], pen => pen
  | run :: rest, pen =>
    if run = [' '] && folds && foldColumn < pen.column then
      plainRuns folds indent rest (pen.indentTo indent).inScalar
    else plainRuns folds indent rest (pen.write run)

/-- Write an unquoted scalar. -/
def writePlain (folds : Bool) (indent : Nat) (s : List Char) (pen : Pen) : Pen :=
  if s.isEmpty then pen
  else plainRuns folds indent (runs s) ((if pen.spaced then pen else pen.write [' ']).inScalar)

/-- Write a run of breaks; a line feed needs one more to survive folding. -/
def writeBreaks (indent : Nat) (run : List Char) (pen : Pen) : Pen :=
  let pen := if run.head? = some '\n' then pen.lineBreak '\n' else pen
  (run.foldl Pen.lineBreak pen).indentTo indent

/-- Write the runs of a scalar between single quotes. -/
def singleRuns (folds : Bool) (indent : Nat) : Bool → List (List Char) → Pen → Pen
  | _, [], pen => pen
  | isFirst, run :: rest, pen =>
    let pen :=
      if run = [' '] && folds && foldColumn < pen.column && !isFirst && !rest.isEmpty then
        pen.indentTo indent
      else if run.head?.any isBreak then writeBreaks indent run pen
      else pen.write (run.flatMap fun c => if c = '\'' then ['\'', '\''] else [c])
    singleRuns folds indent false rest pen

/-- Write a scalar between single quotes. -/
def writeSingle (folds : Bool) (indent : Nat) (s : List Char) (pen : Pen) : Pen :=
  (singleRuns folds indent true (runs s) (pen.indicator ['\''] true false)).indicator ['\''] false
    false

/-- Fold a line between double quotes; a space that comes next is kept by a
backslash. -/
def foldDouble (indent : Nat) (next : Option Char) (pen : Pen) : Pen :=
  let pen := ((pen.write ['\\']).indentTo indent).inScalar
  if next = some ' ' then pen.write ['\\'] else pen

/-- Write the characters of a scalar between double quotes: `inside` after the
first, `fresh` if the character before was escaped. -/
def doubleChars (folds : Bool) (indent : Nat) : Bool → Bool → List Char → Pen → Pen
  | _, _, [], pen => pen
  | inside, fresh, c :: rest, pen =>
    let mayFold := folds && inside && !rest.isEmpty
    if isEscaped c then
      let pen := pen.write (escape c)
      let pen := if mayFold && foldColumn + 1 < pen.column then foldDouble indent rest.head? pen
        else pen
      doubleChars folds indent true true rest pen
    else
      let pen := if mayFold && (c = ' ' || fresh) && foldColumn < pen.column then
          foldDouble indent (some c) pen
        else pen
      doubleChars folds indent true false rest (pen.write [c])

/-- Write a scalar between double quotes. -/
def writeDouble (folds : Bool) (indent : Nat) (s : List Char) (pen : Pen) : Pen :=
  (doubleChars folds indent false true s (pen.indicator ['"'] true false)).indicator ['"'] false
    false

/-- Write a text in the style it needs; only a key with its value behind it
is never folded. -/
def writeText (onKeyLine : Bool) (indent : Nat) (s : List Char) (pen : Pen) : Pen :=
  match styleOf onKeyLine s with
  | .plain => writePlain (!onKeyLine) indent s pen
  | .single => writeSingle (!onKeyLine) indent s pen
  | .double => writeDouble (!onKeyLine) indent s pen

/-! ## Values -/

/-- Whether a key may stand on one line with its value. -/
def fitsKeyLine (key : List Char) : Bool :=
  key.length < 123 && !key.isEmpty && !isMultiline key

/-- The column of the members of a value in a collection at a column, if any. -/
def deeper : Option Nat → Nat
  | none => 0
  | some indent => indent + 2

/-- The column of the folded lines of a scalar. -/
def scalarIndent : Option Nat → Nat
  | none => 2
  | some indent => indent + 2

mutual

/-- Write a value that belongs to a collection at column `outer`; `isField` if
it is the value of a key. -/
def writeValue (outer : Option Nat) (isField : Bool) : Json → Pen → Pen
  | .null, pen => writePlain true (scalarIndent outer) "null".toList pen
  | .bool true, pen => writePlain true (scalarIndent outer) "true".toList pen
  | .bool false, pen => writePlain true (scalarIndent outer) "false".toList pen
  | .number value, pen => writePlain true (scalarIndent outer) (Json.printNumber value) pen
  | .string value, pen => writeText false (scalarIndent outer) value.toList pen
  | .array [], pen => (pen.indicator ['['] true false).indicator [']'] false false
  | .array (item :: items), pen =>
    let indent := if isField && !pen.atMargin then outer.getD 0 else deeper outer
    writeItems indent (item :: items) pen
  | .object [], pen => (pen.indicator ['{'] true false).indicator ['}'] false false
  | .object (field :: fields), pen => writeFields (deeper outer) (field :: fields) pen

/-- Write the items of a sequence at a column. -/
def writeItems (indent : Nat) : List Json → Pen → Pen
  | [], pen => pen
  | item :: items, pen =>
    writeItems indent items
      (writeValue (some indent) false item ((pen.indentTo indent).indicator ['-'] true true))

/-- Write the fields of a mapping at a column. -/
def writeFields (indent : Nat) : List (String × Json) → Pen → Pen
  | [], pen => pen
  | (key, value) :: fields, pen =>
    let pen := pen.indentTo indent
    let pen :=
      if fitsKeyLine key.toList then
        (writeText true (indent + 2) key.toList pen).indicator [':'] false false
      else
        let pen := writeText false (indent + 2) key.toList (pen.indicator ['?'] true true)
        (pen.indentTo indent).indicator [':'] true true
    writeFields indent fields (writeValue (some indent) true value pen)

end

/-- A value as YAML text. -/
def print (value : Json) : String :=
  String.ofList ((writeValue none false value {}).indentTo 0).written.reverse

end RoutePaths.Yaml
