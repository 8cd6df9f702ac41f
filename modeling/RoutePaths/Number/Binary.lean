/-!
# RoutePaths.Number.Binary

Rounding of decimal fractions to binary ones.  A binary fraction has 53
significant bits and an exponent of two from -1074 to 971; a decimal fraction
becomes the nearest of them, the one with an even last bit if two are equally
near, zero if it is too small, and infinity if it is too large.
-/

namespace RoutePaths.Number

/-- A binary fraction without its sign. -/
inductive Magnitude where
  | zero
  /-- The number `m * 2 ^ q`. -/
  | finite (m : Nat) (q : Int)
  | infinite
  deriving Repr, DecidableEq, Inhabited

/-- The nearest whole number to a quotient; a half goes to the even one. -/
def roundDiv (num den : Nat) : Nat :=
  let whole := num / den
  let rest := num % den
  if den < 2 * rest || (2 * rest = den && whole % 2 = 1) then whole + 1 else whole

/-- The quotient `num * base ^ e / den` as a pair of whole numbers. -/
def scale (base num den : Nat) : Int → Nat × Nat
  | .ofNat e => (num * Nat.pow base e, den)
  | .negSucc e => (num, den * Nat.pow base (e + 1))

/-- The largest `k` with `2 ^ k` at most the quotient of two positive numbers. -/
def floorLog2 (num den : Nat) : Int :=
  let k : Int := (num.log2 : Int) - den.log2
  let (a, b) := scale 2 num den (-k)
  if b ≤ a then k else k - 1

/-- The smallest exponent of two. -/
def minExponent : Int := -1074

/-- The largest exponent of two. -/
def maxExponent : Int := 971

/-- The binary fraction nearest to a quotient of positive numbers. -/
def Magnitude.nearest (num den : Nat) : Magnitude :=
  let q := max (floorLog2 num den - 52) minExponent
  let (a, b) := scale 2 num den (-q)
  let m := roundDiv a b
  let (m, q) := if m = Nat.pow 2 53 then (Nat.pow 2 52, q + 1) else (m, q)
  if m = 0 then .zero else if maxExponent < q then .infinite else .finite m q

/-- The number of decimal digits of a number. -/
def digitCount (n : Nat) : Nat := (Nat.toDigits 10 n).length

/-- The binary fraction nearest to `digits * 10 ^ exponent`.  Below `10 ^ -400`
and above `10 ^ 400` nothing has to be computed. -/
def Magnitude.ofDecimal (digits : Nat) (exponent : Int) : Magnitude :=
  if digits = 0 || exponent + digitCount digits < -400 then .zero
  else if 400 < exponent + digitCount digits then .infinite
  else
    let (num, den) := scale 10 digits 1 exponent
    nearest num den

end RoutePaths.Number
