/-!
# RoutePaths.Text.Similarity

How alike two texts are, to suggest a word for a misspelled one.  The texts are
matched at their longest common part and then, in the same way, on the left and
on the right of it; the score is the share of matched characters among all
characters of both.
-/

namespace RoutePaths.Text

/-! ## Matching -/

/-- The number of characters that two texts begin with in common. -/
def commonStart : List Char → List Char → Nat
  | a :: as, b :: bs => if a = b then commonStart as bs + 1 else 0
  | _, _ => 0

/-- A common part of two texts: where it begins in either, and its length. -/
structure CommonPart where
  left : Nat
  right : Nat
  size : Nat
  deriving Repr, DecidableEq, Inhabited

/-- The longer of two common parts, the first if they are equally long. -/
def CommonPart.max (p q : CommonPart) : CommonPart := if p.size < q.size then q else p

/-- All pairs of places in two texts, by the place in the first. -/
def placePairs (a b : List Char) : List (Nat × Nat) :=
  (List.range a.length).flatMap fun i => (List.range b.length).map fun j => (i, j)

/-- The longest common part of two texts, the leftmost if there are several. -/
def longestCommon (a b : List Char) : CommonPart :=
  (placePairs a b).foldl
    (fun best (i, j) => best.max ⟨i, j, commonStart (a.drop i) (b.drop j)⟩) ⟨0, 0, 0⟩

/-- The number of matched characters; `fuel` bounds the number of parts on the
way to any of them. -/
def matchedWithin : Nat → List Char → List Char → Nat
  | 0, _, _ => 0
  | fuel + 1, a, b =>
    let part := longestCommon a b
    if part.size = 0 then 0
    else matchedWithin fuel (a.take part.left) (b.take part.right) + part.size
      + matchedWithin fuel (a.drop (part.left + part.size)) (b.drop (part.right + part.size))

/-- The number of matched characters. -/
def matched (a b : List Char) : Nat := matchedWithin a.length a b

/-! ## Suggestions -/

/-- A candidate with its matched characters and those of both texts together. -/
structure Score where
  name : String
  matched : Nat
  total : Nat
  deriving Repr, DecidableEq, Inhabited

namespace Score

/-- The score of a candidate for a word. -/
def of (word name : String) : Score :=
  ⟨name, Text.matched name.toList word.toList, name.length + word.length⟩

/-- Whether at least three characters in five of both texts are matched. -/
def isClose (s : Score) : Bool := 3 * s.total ≤ 10 * s.matched

/-- Whether a candidate comes before another: the higher share first, and of
equal shares the later name. -/
def before (s t : Score) : Bool :=
  t.matched * s.total < s.matched * t.total
    || (s.matched * t.total = t.matched * s.total && t.name ≤ s.name)

end Score

/-- At most three candidates that are close to a word, by name. -/
def suggestions (word : String) (candidates : List String) : List String :=
  ((((candidates.map (Score.of word)).filter Score.isClose).mergeSort Score.before).take 3).map
    Score.name |>.mergeSort fun a b => decide (a ≤ b)

end RoutePaths.Text
