import RoutePaths.Text.Quoted

/-!
# RoutePaths.Text.Utf8

Reading bytes as UTF-8 text:

1. `decode` gives one entry per character; where the bytes are no character
   the entry is empty, once for every longest run of bytes that could have
   begun a character;
2. `decodeLossy` writes the replacement character for empty entries and never
   fails, `decodeStrict` fails if there are any;
3. the first of these runs is the fault of bytes that are no text;
4. text files end their lines with a line feed, a carriage return, or both;
   `plainNewlines` makes every line end a line feed.
-/

namespace RoutePaths.Text

/-- The payload of a byte that continues a character. -/
def continuation? (b : UInt8) : Option Nat :=
  if 0x80 ≤ b ∧ b ≤ 0xBF then some (b.toNat - 0x80) else none

/-- The smallest and the largest byte that may stand second after a first
byte: longer spellings than needed, surrogates and code points beyond the
last are no characters. -/
def secondRange (lead : UInt8) : UInt8 × UInt8 :=
  if lead = 0xE0 then (0xA0, 0xBF)
  else if lead = 0xED then (0x80, 0x9F)
  else if lead = 0xF0 then (0x90, 0xBF)
  else if lead = 0xF4 then (0x80, 0x8F)
  else (0x80, 0xBF)

/-- The payload of the second byte of a character. -/
def second? (lead b : UInt8) : Option Nat :=
  let (lo, hi) := secondRange lead
  if lo ≤ b ∧ b ≤ hi then some (b.toNat - 0x80) else none

/-- How many bytes a character has, by its first byte. -/
def byteCount (lead : UInt8) : Nat :=
  if lead < 0x80 then 1
  else if 0xC2 ≤ lead ∧ lead ≤ 0xDF then 2
  else if 0xE0 ≤ lead ∧ lead ≤ 0xEF then 3
  else if 0xF0 ≤ lead ∧ lead ≤ 0xF4 then 4
  else 0

/-- The characters spelled by the bytes, with an empty entry for every
longest run that only begins one. -/
def decode : List UInt8 → List (Option Char)
  | [] => []
  | a :: s =>
    match byteCount a with
    | 1 => some (Char.ofNat a.toNat) :: decode s
    | 2 =>
      match s with
      | [] => [none]
      | b :: t =>
        match second? a b with
        | none => none :: decode (b :: t)
        | some y => some (Char.ofNat ((a.toNat - 0xC0) * 64 + y)) :: decode t
    | 3 =>
      match s with
      | [] => [none]
      | b :: t =>
        match second? a b with
        | none => none :: decode (b :: t)
        | some y =>
          match t with
          | [] => [none]
          | c :: u =>
            match continuation? c with
            | none => none :: decode (c :: u)
            | some z => some (Char.ofNat (((a.toNat - 0xE0) * 64 + y) * 64 + z)) :: decode u
    | 4 =>
      match s with
      | [] => [none]
      | b :: t =>
        match second? a b with
        | none => none :: decode (b :: t)
        | some y =>
          match t with
          | [] => [none]
          | c :: u =>
            match continuation? c with
            | none => none :: decode (c :: u)
            | some z =>
              match u with
              | [] => [none]
              | d :: v =>
                match continuation? d with
                | none => none :: decode (d :: v)
                | some w =>
                  some (Char.ofNat ((((a.toNat - 0xF0) * 64 + y) * 64 + z) * 64 + w)) :: decode v
    | _ => none :: decode s

/-- The replacement character. -/
def replacement : Char := Char.ofNat 0xFFFD

/-- The text spelled by the bytes, with the replacement character for what is
no character. -/
def decodeLossy (bytes : List UInt8) : List Char := (decode bytes).map (·.getD replacement)

/-- The text spelled by the bytes, if all of them spell characters. -/
def decodeStrict (bytes : List UInt8) : Option (List Char) := (decode bytes).mapM id

/-- Why a run of bytes is no character. -/
inductive BreakCause where
  /-- No character begins with such a byte. -/
  | start
  /-- The bytes end before the character does. -/
  | ended
  /-- The next byte does not go on with the character. -/
  | continuation
  deriving Repr, DecidableEq, Inhabited

/-- A run of bytes that is no character, and the number of bytes in front of it. -/
structure Break where
  place : Nat
  run : List UInt8
  cause : BreakCause
  deriving Repr, DecidableEq, Inhabited

/-- The bytes behind a first byte that go on with its character. -/
def fitting (lead : UInt8) : List UInt8 → List UInt8
  | [] => []
  | b :: t =>
    if (second? lead b).isSome then
      b :: (t.take (byteCount lead - 2)).takeWhile fun c => (continuation? c).isSome
    else []

/-- The run at the start of bytes that begin with no character. -/
def breakAt (place : Nat) : List UInt8 → Break
  | [] => ⟨place, [], .ended⟩
  | a :: s =>
    if byteCount a = 0 then ⟨place, [a], .start⟩
    else if (fitting a s).length = s.length then ⟨place, a :: fitting a s, .ended⟩
    else ⟨place, a :: fitting a s, .continuation⟩

/-- The bytes of the characters at the start, up to what is no character. -/
def textFront (bytes : List UInt8) : List UInt8 :=
  (((decode bytes).takeWhile Option.isSome).filterMap id).flatMap String.utf8EncodeChar

/-- The first run of bytes that is no character. -/
def firstBreak (bytes : List UInt8) : Break :=
  breakAt (textFront bytes).length (bytes.drop (textFront bytes).length)

/-- The wording of a break. -/
def Break.message (b : Break) : String :=
  let cause := match b.cause with
    | .start => "invalid start byte"
    | .ended => "unexpected end of data"
    | .continuation => "invalid continuation byte"
  let bytes := match b.run with
    | [byte] => "byte 0x" ++ String.ofList (hex 2 byte.toNat) ++ " in position " ++ toString b.place
    | run => "bytes in position " ++ toString b.place ++ "-"
        ++ toString (b.place + run.length - 1)
  "'utf-8' codec can't decode " ++ bytes ++ ": " ++ cause

/-- The bytes that spell a text. -/
def encode (s : String) : List UInt8 := s.toUTF8.toList

/-- The text with a line feed for every line end. -/
def plainNewlines : List Char → List Char
  | [] => []
  | c :: rest =>
    if c = '\r' then
      match rest with
      | '\n' :: _ => plainNewlines rest
      | _ => '\n' :: plainNewlines rest
    else c :: plainNewlines rest

end RoutePaths.Text
