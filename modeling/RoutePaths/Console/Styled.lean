import RoutePaths.Console.Style

/-!
# RoutePaths.Console.Styled

Texts with styled parts.  On a console without colours a style does not show,
but where a styled part begins or ends the text is cut into runs, and every
run is measured by itself; and a style that cannot be looked up is an error
as soon as a part that has it is drawn.

1. Cutting a text out of a longer one keeps of every part what lies inside,
   unless that is nothing.
2. Dropping the end of a text keeps of every part that begins before the end
   what lies before it.
-/

namespace RoutePaths.Console

/-! ## Spans -/

/-- The place of a styled part. -/
structure Span where
  start : Nat
  stop : Nat
  /-- Why its style cannot be looked up. -/
  fault : Option ColourError := none
  deriving Repr, DecidableEq, Inhabited

namespace Span

/-- What of a span lies in a range of places, counted from its start. -/
def clip? (lo hi : Nat) (s : Span) : Option Span :=
  let start := s.start - lo
  let stop := min s.stop hi - lo
  if start < stop then some { s with start, stop } else none

/-- What is left of a span when a text is cut down to `size` characters. -/
def trim? (size : Nat) (s : Span) : Option Span :=
  if s.start < size then some { s with stop := min s.stop size } else none

/-- The span as many places further on. -/
def shift (n : Nat) (s : Span) : Span := { s with start := s.start + n, stop := s.stop + n }

end Span

/-! ## Texts -/

/-- A text and its styled parts. -/
structure Styled where
  chars : List Char
  spans : List Span := []
  deriving Repr, DecidableEq, Inhabited

namespace Styled

/-- The part of a text between two places. -/
def between (t : Styled) (lo hi : Nat) : Styled :=
  ⟨(t.chars.drop lo).take (hi - lo), t.spans.filterMap (Span.clip? lo hi)⟩

/-- The parts of a text between places counted from its start, from one on. -/
def partsFrom (t : Styled) : Nat → List Nat → List Styled
  | lo, [] => [t.between lo t.chars.length]
  | lo, place :: places => t.between lo place :: partsFrom t place places

/-- The parts of a text between places; without a place it stays whole. -/
def cutAt (t : Styled) : List Nat → List Styled
  | [] => [t]
  | places => t.partsFrom 0 places

/-- The text with other characters, and fewer of them if some were dropped at
the end. -/
def withChars (t : Styled) (chars : List Char) : Styled :=
  if chars.length < t.chars.length then ⟨chars, t.spans.filterMap (Span.trim? chars.length)⟩
  else { t with chars }

/-- The text behind `n` more spaces. -/
def indent (t : Styled) (n : Nat) : Styled :=
  ⟨List.replicate n ' ' ++ t.chars, t.spans.map (Span.shift n)⟩

/-- The text and `n` more spaces. -/
def fill (t : Styled) (n : Nat) : Styled :=
  { t with chars := t.chars ++ List.replicate n ' ' }

/-- The text and `n` more spaces, which belong to the parts that reach its end. -/
def extend (t : Styled) (n : Nat) : Styled where
  chars := t.chars ++ List.replicate n ' '
  spans := t.spans.map fun s => if t.chars.length ≤ s.stop then { s with stop := s.stop + n } else s

/-- One text behind the other. -/
def append (t u : Styled) : Styled :=
  ⟨t.chars ++ u.chars, t.spans ++ u.spans.map (Span.shift t.chars.length)⟩

/-- Texts one behind the other. -/
def concat (ts : List Styled) : Styled := ts.foldl append ⟨[], []⟩

/-! ## Drawing -/

/-- The runs of the characters from a place on that the cuts make. -/
def runsFrom (isCut : Nat → Bool) : Nat → List Char → List Char → List (List Char)
  | _, run, [] => if run.isEmpty then [] else [run.reverse]
  | place, run, c :: rest =>
    if isCut place && !run.isEmpty then run.reverse :: runsFrom isCut (place + 1) [c] rest
    else runsFrom isCut (place + 1) (c :: run) rest

/-- The runs of a text: it is cut where a styled part begins or ends. -/
def runs (t : Styled) : List (List Char) :=
  runsFrom (fun place => t.spans.any fun s => s.start = place || s.stop = place) 0 [] t.chars

/-- Why a text cannot be drawn: the first style that cannot be looked up. -/
def fault? (t : Styled) : Option ColourError := t.spans.findSome? Span.fault

end Styled

end RoutePaths.Console
