import RoutePaths.Json.Basic
import RoutePaths.Json.Fault
import RoutePaths.Text.Digit

/-!
# RoutePaths.Json.Reader

Reading JSON texts:

1. blanks between the parts of a value are spaces, tabs, line feeds and
   carriage returns, nothing else;
2. strings hold no control characters; the two halves of a surrogate pair make
   one character, and a half alone is kept;
3. besides the numbers of the standard, `NaN`, `Infinity` and `-Infinity` are
   read; an integer in a text from outside has at most `maxDigits` digits;
4. of several fields with one name the last gives the value and the first the
   place;
5. nothing but blanks may follow the value;
6. a text that spells no value has a fault, the first one from the left.
-/

namespace RoutePaths.Json

/-! ## Blanks and strings -/

/-- Whether a character may stand between the parts of a value. -/
def isSpace (c : Char) : Bool := c = ' ' || c = '\t' || c = '\n' || c = '\r'

/-- The text without the blanks at its start. -/
def skipSpace (s : List Char) : List Char := s.dropWhile isSpace

/-- The value of a hexadecimal digit. -/
def hexValue? (c : Char) : Option Nat :=
  if '0' ≤ c ∧ c ≤ '9' then some (c.toNat - 48)
  else if 'a' ≤ c ∧ c ≤ 'f' then some (c.toNat - 87)
  else if 'A' ≤ c ∧ c ≤ 'F' then some (c.toNat - 55)
  else none

/-- The UTF-16 unit spelled by four hexadecimal digits. -/
def unit? (a b c d : Char) : Option Nat := do
  let a ← hexValue? a
  let b ← hexValue? b
  let c ← hexValue? c
  let d ← hexValue? d
  return ((a * 16 + b) * 16 + c) * 16 + d

/-- The character named by a letter after a backslash. -/
def escaped? (c : Char) : Option Char :=
  if c = '"' || c = '\\' || c = '/' then some c
  else if c = 'n' then some '\n'
  else if c = 'r' then some '\r'
  else if c = 't' then some '\t'
  else if c = 'b' then some (Char.ofNat 8)
  else if c = 'f' then some (Char.ofNat 12)
  else none

/-- The codes of a string after its opening quote, and the text after its
closing quote; `start` is the text from the opening quote on.  A code needs its
four digits and something behind them. -/
def readCodes (start : List Char) : List Char → Except Fault (List Nat × List Char)
  | [] => .error ⟨.noQuote, start⟩
  | '"' :: s => .ok ([], s)
  | '\\' :: [] => .error ⟨.noQuote, start⟩
  | '\\' :: 'u' :: a :: b :: c :: d :: s =>
    match unit? a b c d with
    | none => .error ⟨.code, 'u' :: a :: b :: c :: d :: s⟩
    | some n =>
      if s = [] then .error ⟨.code, 'u' :: a :: b :: c :: d :: s⟩
      else (readCodes start s).map fun (r, rest) => (n :: r, rest)
  | '\\' :: e :: s =>
    match escaped? e with
    | none => .error (if e = 'u' then ⟨.code, e :: s⟩ else ⟨.escape, '\\' :: e :: s⟩)
    | some c => (readCodes start s).map fun (r, rest) => (c.toNat :: r, rest)
  | c :: s =>
    if c.toNat < 0x20 then .error ⟨.control, c :: s⟩
    else (readCodes start s).map fun (r, rest) => (c.toNat :: r, rest)

/-- A string after its opening quote, and the text after its closing quote. -/
def readString (s : List Char) : Except Fault (Text.CodePoints × List Char) :=
  (readCodes ('"' :: s) s).map fun (r, rest) => (Text.CodePoints.joinPairs r, rest)

/-! ## Numbers -/

/-- The digits at the start of the text and the rest. -/
def digits (s : List Char) : List Char × List Char :=
  (s.takeWhile Char.isDigit, s.dropWhile Char.isDigit)

/-- The number spelled by digits. -/
def ofDigits (ds : List Char) : Nat := ds.foldl (fun n d => 10 * n + (d.toNat - 48)) 0

/-- The digits before the point: a zero alone, or digits that do not begin
with one. -/
def whole? (s : List Char) : Option (List Char × List Char) :=
  match digits s with
  | ([], _) => none
  | ('0' :: ds, rest) => some (['0'], ds ++ rest)
  | r => some r

/-- The digits after a point, and the rest; nothing is read without digits. -/
def fraction (s : List Char) : List Char × List Char :=
  match s with
  | '.' :: t =>
    match digits t with
    | ([], _) => ([], s)
    | r => r
  | _ => ([], s)

/-- The exponent and the rest, if there is one. -/
def exponent? (s : List Char) : Option (Int × List Char) :=
  match s with
  | e :: t =>
    if e = 'e' || e = 'E' then
      match t with
      | '-' :: u => match digits u with
        | ([], _) => none
        | (ds, rest) => some (-(ofDigits ds : Int), rest)
      | '+' :: u => match digits u with
        | ([], _) => none
        | (ds, rest) => some ((ofDigits ds : Int), rest)
      | _ => match digits t with
        | ([], _) => none
        | (ds, rest) => some ((ofDigits ds : Int), rest)
    else none
  | [] => none

/-- A number without its sign; with a `limit`, an integer has no more digits.
`start` is the text from the sign on. -/
def readNumber (limit : Option Nat) (negative : Bool) (start s : List Char) :
    Except Fault (JsonNumber × List Char) :=
  match whole? s with
  | none => .error ⟨.noValue, start⟩
  | some (ds, s) =>
    let (fs, s) := fraction s
    match fs, exponent? s with
    | [], none =>
      match limit.filter (· < ds.length) with
      | some most => .error ⟨.tooLong ds.length most, start⟩
      | none => .ok (.integer (if negative then -(ofDigits ds : Int) else ofDigits ds), s)
    | fs, none => .ok (.decimal negative (ofDigits (ds ++ fs)) (-(fs.length : Int)), s)
    | fs, some (e, s) => .ok (.decimal negative (ofDigits (ds ++ fs)) (e - fs.length), s)

/-- The rest of the text after a word. -/
def word? : List Char → List Char → Option (List Char)
  | [], s => some s
  | _ :: _, [] => none
  | p :: ps, c :: s => if c = p then word? ps s else none

/-- A value spelled by a word. -/
def readWord? (s : List Char) : Option (RawJson × List Char) :=
  (word? "null".toList s).map (.null, ·)
    <|> (word? "true".toList s).map (.bool true, ·)
    <|> (word? "false".toList s).map (.bool false, ·)
    <|> (word? "NaN".toList s).map (.number .undefined, ·)
    <|> (word? "Infinity".toList s).map (.number (.infinity false), ·)
    <|> (word? "-Infinity".toList s).map (.number (.infinity true), ·)

/-- A value spelled by a word or a number. -/
def readAtom (limit : Option Nat) (s : List Char) : Except Fault (RawJson × List Char) :=
  match readWord? s with
  | some r => .ok r
  | none =>
    let number := match s with
      | '-' :: t => readNumber limit true s t
      | _ => readNumber limit false s s
    number.map fun (n, rest) => (.number n, rest)

/-! ## Values -/

mutual

/-- A value at the start of the text and the rest; `fuel` bounds the number of
values and separators. -/
def readValue (limit : Option Nat) : Nat → List Char → Except Fault (RawJson × List Char)
  | 0, s => .error ⟨.noValue, s⟩
  | fuel + 1, s =>
    match s with
    | '"' :: s => (readString s).map fun (r, rest) => (.string r, rest)
    | '[' :: s =>
      match skipSpace s with
      | ']' :: rest => .ok (.array [], rest)
      | s => (readItems limit fuel s).map fun (items, rest) => (.array items, rest)
    | '{' :: s =>
      match skipSpace s with
      | '}' :: rest => .ok (.object [], rest)
      | s => (readFields limit fuel s).map fun (fields, rest) =>
          (.object (Ledger.ofPairs fields), rest)
    | s => readAtom limit s

/-- The items of an array up to its closing bracket. -/
def readItems (limit : Option Nat) :
    Nat → List Char → Except Fault (List RawJson × List Char)
  | 0, s => .error ⟨.noValue, s⟩
  | fuel + 1, s =>
    match readValue limit fuel s with
    | .error fault => .error fault
    | .ok (item, s) =>
      match skipSpace s with
      | ']' :: rest => .ok ([item], rest)
      | ',' :: s =>
        (readItems limit fuel (skipSpace s)).map fun (items, rest) => (item :: items, rest)
      | s => .error ⟨.noComma, s⟩

/-- The fields of an object up to its closing brace. -/
def readFields (limit : Option Nat) :
    Nat → List Char → Except Fault (List (Text.CodePoints × RawJson) × List Char)
  | 0, s => .error ⟨.noName, s⟩
  | fuel + 1, s =>
    match s with
    | '"' :: s =>
      match readString s with
      | .error fault => .error fault
      | .ok (name, s) =>
        match skipSpace s with
        | ':' :: s =>
          match readValue limit fuel (skipSpace s) with
          | .error fault => .error fault
          | .ok (item, s) =>
            match skipSpace s with
            | '}' :: rest => .ok ([(name, item)], rest)
            | ',' :: s => (readFields limit fuel (skipSpace s)).map fun (fields, rest) =>
                ((name, item) :: fields, rest)
            | s => .error ⟨.noComma, s⟩
        | s => .error ⟨.noColon, s⟩
    | s => .error ⟨.noName, s⟩

end

/-- The value that a text spells, if it spells one whose integers keep to the limit. -/
def parse (limit : Option Nat) (s : List Char) : Except Fault RawJson :=
  match readValue limit (2 * s.length + 1) (skipSpace s) with
  | .error fault => .error fault
  | .ok (value, rest) =>
    match skipSpace rest with
    | [] => .ok value
    | rest => .error ⟨.extra, rest⟩

/-- The value that a text spells, or nothing. -/
def parse? (limit : Option Nat) (s : List Char) : Option RawJson := (parse limit s).toOption

/-- The value that a text from outside spells. -/
def readRaw (s : List Char) : Except Fault RawJson :=
  if s.head? = some '\uFEFF' then .error ⟨.byteOrderMark, s⟩
  else parse (some Text.maxDigits) s

/-- The value that a text from outside spells, or nothing. -/
def readRaw? (s : List Char) : Option RawJson := (readRaw s).toOption

/-- A value that was read, with texts for strings. -/
def withTexts (value : RawJson) : Json :=
  value.mapStrings fun codes => String.ofList codes.chars

/-- The value that a text from outside spells, with texts for strings. -/
def read? (s : List Char) : Option Json := (readRaw? s).map withTexts

end RoutePaths.Json
