/-!
# RoutePaths.Text.Pattern

Patterns of texts, as data, with marks for the parts that are asked for:

1. of alternatives the first one is taken with which the rest of the pattern
   matches, and a repetition goes on as long as it can, or ends as soon as it
   can if it is lazy;
2. a pattern may also ask what stands before a place;
3. the matches of a pattern in a text are searched from the left, each behind
   the one before.
-/

namespace RoutePaths.Text

/-- Patterns of texts. -/
inductive Pattern where
  /-- One character. -/
  | char (accepts : Char → Bool)
  | nothing
  | both (p q : Pattern)
  | either (p q : Pattern)
  /-- A pattern so many times; without a limit as often as there are
  characters. -/
  | many (isLazy : Bool) (least : Nat) (limit : Option Nat) (p : Pattern)
  /-- What the pattern matches is marked. -/
  | mark (p : Pattern)
  /-- No such character stands before the place. -/
  | notBehind (accepts : Char → Bool)
  /-- Whether characters of different kinds meet at the place; beyond the ends
  of the text stands none of the kind. -/
  | edge (isKind : Char → Bool) (expected : Bool)

/-- A place in a text. -/
structure Place where
  before : Option Char := none
  rest : List Char
  /-- The number of characters before it. -/
  count : Nat := 0
  /-- The marked parts, the last one first. -/
  marks : List (Nat × Nat) := []

/-- The place behind one more character. -/
def Place.next? (p : Place) : Option (Char × Place) :=
  match p.rest with
  | [] => none
  | c :: rest => some (c, { p with before := some c, rest, count := p.count + 1 })

namespace Pattern

instance : Append Pattern := ⟨both⟩

instance : OrElse Pattern := ⟨fun p q => either p (q ())⟩

/-- A repetition of what `step` matches, at most `left` times. -/
def repeated (step : Place → (Place → Option Place) → Option Place) (isLazy : Bool) :
    Nat → Nat → Place → (Place → Option Place) → Option Place
  | 0, least, s, k => if least = 0 then k s else none
  | left + 1, least, s, k =>
    let again (_ : Unit) := step s fun t =>
      if s.count < t.count then repeated step isLazy left (least - 1) t k else none
    if 0 < least then again ()
    else if isLazy then k s <|> again ()
    else again () <|> k s

/-- The end of a match at a place that `k` accepts. -/
def run : Pattern → Place → (Place → Option Place) → Option Place
  | char accepts, s, k =>
    match s.next? with
    | some (c, t) => if accepts c then k t else none
    | none => none
  | nothing, s, k => k s
  | both p q, s, k => p.run s fun t => q.run t k
  | either p q, s, k => p.run s k <|> q.run s k
  | many isLazy least limit p, s, k =>
    repeated p.run isLazy (limit.getD (s.rest.length + 1)) least s k
  | mark p, s, k => p.run s fun t => k { t with marks := (s.count, t.count) :: t.marks }
  | notBehind accepts, s, k => if s.before.any accepts then none else k s
  | edge isKind expected, s, k =>
    if (s.before.any isKind != s.rest.head?.any isKind) = expected then k s else none

/-- The marks of the matches behind a place; `fuel` bounds the number of
characters.  A match that takes no character is passed over. -/
def marksFrom (p : Pattern) : Nat → Place → List (Nat × Nat)
  | 0, _ => []
  | fuel + 1, s =>
    match (p.run s some).filter (s.count < ·.count) with
    | some t => t.marks.reverse ++ marksFrom p fuel { t with marks := [] }
    | none =>
      match s.next? with
      | some (_, t) => marksFrom p fuel t
      | none => []

/-- The marked parts of the matches in a text. -/
def marksIn (p : Pattern) (s : List Char) : List (Nat × Nat) :=
  marksFrom p (s.length + 1) { rest := s }

/-! ## Common patterns -/

/-- The pattern, or nothing. -/
def opt (p : Pattern) : Pattern := many false 0 (some 1) p

/-- The pattern as often as it can be. -/
def anyTimes (p : Pattern) : Pattern := many false 0 none p

/-- The pattern at least once. -/
def plus (p : Pattern) : Pattern := many false 1 none p

/-- The pattern exactly so many times. -/
def times (n : Nat) (p : Pattern) : Pattern := many false n (some n) p

/-- The pattern so many times, at least and at most. -/
def upTo (least limit : Nat) (p : Pattern) : Pattern := many false least (some limit) p

/-- One of some characters. -/
def oneOf (cs : String) : Pattern := char fun c => cs.toList.contains c

/-- A given text. -/
def exactly (s : String) : Pattern :=
  s.toList.foldr (fun c p => both (char (· = c)) p) nothing

end Pattern

end RoutePaths.Text
