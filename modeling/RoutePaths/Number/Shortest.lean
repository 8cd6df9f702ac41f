import RoutePaths.Number.Binary

/-!
# RoutePaths.Number.Shortest

The shortest decimal text of a binary fraction:

1. of all decimal fractions that round to it, one with the fewest digits is
   chosen, and of those the nearest;
2. the digits are written in full if the first stands between the fourth place
   behind the point and the sixteenth before it, and then always with a point;
   else one digit stands before the point and an exponent follows.
-/

namespace RoutePaths.Number

/-- The largest `k` with `10 ^ k` at most the quotient of two positive numbers. -/
def floorLog10 (num den : Nat) : Int :=
  if den ≤ num then (digitCount (num / den) : Int) - 1
  else
    let count := digitCount (den / num)
    if den ≤ num * Nat.pow 10 (count - 1) then -((count : Int) - 1) else -(count : Int)

/-- The decimal fraction `digits * 10 ^ place` that rounds to `m * 2 ^ q` and
has its last digit at the given place, if there is one.  In quarters of
`2 ^ q`, the numbers that round to `4 * m` reach up to `4 * m + 2`, and down to
`4 * m - 2`, or only to `4 * m - 1` if a smaller exponent begins there; the
ends belong to them if `m` is even. -/
def atPlace? (m : Nat) (q place : Int) : Option Nat :=
  let (quarter, unit) := scale 2 1 1 (q - 2)
  let (step, whole) := scale 10 1 1 place
  let grid := step * unit
  let fine := quarter * whole
  let low := if m = Nat.pow 2 52 ∧ minExponent < q then 4 * m - 1 else 4 * m - 2
  let rounds (digits : Nat) : Bool :=
    if m % 2 = 0 then low * fine ≤ digits * grid && digits * grid ≤ (4 * m + 2) * fine
    else low * fine < digits * grid && digits * grid < (4 * m + 2) * fine
  let below := 4 * m * fine / grid
  match rounds below, rounds (below + 1) with
  | true, true => some (roundDiv (4 * m * fine) grid)
  | true, false => some below
  | false, true => some (below + 1)
  | false, false => none

/-- The first place, of `count` places from the given one to the right, where a
decimal fraction rounds to `m * 2 ^ q`, and its digits. -/
def firstPlace (m : Nat) (q : Int) : Nat → Int → Nat × Int
  | 0, place => (0, place)
  | count + 1, place =>
    match atPlace? m q place with
    | some digits => (digits, place)
    | none => firstPlace m q count (place - 1)

/-- The digits without zeros at their end. -/
def significant (digits : Nat) : List Char :=
  ((Nat.toDigits 10 digits).reverse.dropWhile (· = '0')).reverse

/-- Digits in full, the first of them at a place counted from the ones. -/
def positional (ds : List Char) (first : Int) : List Char :=
  if first < 0 then '0' :: '.' :: List.replicate (-first - 1).toNat '0' ++ ds
  else
    let whole := first.toNat + 1
    if ds.length ≤ whole then ds ++ List.replicate (whole - ds.length) '0' ++ ['.', '0']
    else ds.take whole ++ '.' :: ds.drop whole

/-- An exponent with its sign and at least two digits. -/
def exponentText (e : Int) : List Char :=
  let ds := Nat.toDigits 10 e.natAbs
  (if e < 0 then '-' else '+') :: if ds.length < 2 then '0' :: ds else ds

/-- Digits with an exponent. -/
def scientific (ds : List Char) (first : Int) : List Char :=
  match ds with
  | [] => []
  | [d] => d :: 'e' :: exponentText first
  | d :: rest => d :: '.' :: rest ++ 'e' :: exponentText first

/-- The shortest text of a binary fraction. -/
def Magnitude.text : Magnitude → List Char
  | zero => ['0', '.', '0']
  | infinite => ['i', 'n', 'f']
  | finite m q =>
    let (num, den) := scale 2 m 1 q
    let (digits, place) := firstPlace m q 17 (floorLog10 num den)
    let ds := significant digits
    let first := place + (digitCount digits : Int) - 1
    if -4 ≤ first ∧ first < 16 then positional ds first else scientific ds first

end RoutePaths.Number
