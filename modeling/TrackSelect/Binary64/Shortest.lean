import TrackSelect.Binary64.Rounding

/-!
# Shortest decimals

A finite number is written with the fewest significant digits that read back to it, and with the
nearest such digits; a `Tie` decides between two that are equally near. `shortest` finds them: for
1, 2, … 17 digits it tests the two neighbours of the number on that decimal grid. `plain` and
`scientific` are two layouts of the digits.
-/

namespace TrackSelect.Binary64

/-- Which of two decimals counts as the nearer one when a number is right between them. -/
inductive Tie where
  /-- The one with an even last digit. -/
  | toEven
  /-- The one farther from zero. -/
  | away
deriving DecidableEq, Repr

/-- The exponent `p` with `10 ^ p ≤ num / den < 10 ^ (p + 1)`, for a positive quotient. -/
def decimalExponent (num den : Nat) : Int :=
  if den ≤ num then (Nat.toDigits 10 (num / den)).length - 1
  else
    let m := (Nat.toDigits 10 (den / num)).length - 1
    if den ≤ num * tenTo m then -m else -(m + 1)

/-- The neighbours of `num / den` on the grid of `10 ^ exponent` that read back to `x`, the nearer
first. -/
def readingBack (tie : Tie) (x : Binary64) (num den : Nat) (exponent : Int) : List Nat :=
  let (n, d) :=
    if 0 ≤ exponent then (num, den * tenTo exponent.toNat) else (num * tenTo (-exponent).toNat, den)
  let below := n / d
  let isTieAbove := decide (tie = .away) || below % 2 = 1
  let isAbove := d < 2 * (n % d) || (2 * (n % d) = d && isTieAbove)
  let candidates := if isAbove then [below + 1, below] else [below, below + 1]
  candidates.filter fun c => ofDecimal x.isNegative c exponent == x

/-- The significant digits of a finite number and the decimal exponent of the first of them. -/
def shortest (tie : Tie) (x : Binary64) : List Char × Int :=
  if x.significand = 0 then (['0'], 0) else
  let num := if 0 ≤ x.exponent then x.significand * twoTo x.exponent.toNat else x.significand
  let den := if 0 ≤ x.exponent then 1 else twoTo (-x.exponent).toNat
  let first := decimalExponent num den
  let found := (List.range 17).findSome? fun (more : Nat) =>
    ((readingBack tie x num den (first - more)).head?).map fun c =>
      let ds := Nat.toDigits 10 c
      ((ds.reverse.dropWhile (· == '0')).reverse, first - more + ds.length - 1)
  found.getD (['0'], 0)

/-- Digits with the point in its place and at least one digit on each side of it. -/
def plain (ds : List Char) (first : Int) : List Char :=
  if first < 0 then
    '0' :: '.' :: List.replicate (-first - 1).toNat '0' ++ ds
  else
    let whole := first.toNat + 1
    let fraction := ds.drop whole
    (ds.take whole).rightpad whole '0' ++ '.' :: (if fraction = [] then ['0'] else fraction)

/-- Digits with the point behind the first of them, if there are more, and the exponent with its
sign. -/
def scientific (ds : List Char) (first : Int) : List Char :=
  let point := if ds.length = 1 then [] else ['.']
  let sign := if first < 0 then '-' else '+'
  ds.take 1 ++ point ++ ds.drop 1 ++ 'e' :: sign :: Nat.toDigits 10 first.natAbs

end TrackSelect.Binary64
