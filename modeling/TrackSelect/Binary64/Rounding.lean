import TrackSelect.Binary64.Basic

/-!
# Rounding to binary64

Exact rational values rounded to the nearest binary64 number, ties to the even significand. All
arithmetic on binary64 numbers goes through `ofRatio`, so each operation is the exact result
rounded once.
-/

namespace TrackSelect.Binary64

/-- The nearest integer to a quotient, ties to even. -/
def roundQuotient (num den : Nat) : Nat :=
  let quotient := num / den
  let twice := 2 * (num % den)
  if den < twice || (twice == den && quotient % 2 == 1) then quotient + 1 else quotient

/-- `num / den` over `2 ^ exponent`, as numerator and denominator. -/
def rescale (num den : Nat) (exponent : Int) : Nat × Nat :=
  if 0 ≤ exponent then (num, den * twoTo exponent.toNat) else (num * twoTo (-exponent).toNat, den)

/-- The exponent of the last significand bit for a positive quotient: 53 significant bits, and
never below the exponent of the subnormal numbers. -/
def lastBit (num den : Nat) : Int :=
  let guess : Int := num.log2 - den.log2 - 52
  let (n, d) := rescale num den guess
  max (if n < d * twoTo 52 then guess - 1 else guess) (-1074)

/-- The number nearest to `num / den`, with a sign. -/
def ofRatio (negative : Bool) (num den : Nat) : Binary64 :=
  if num = 0 then ofMagnitude negative 0 else
  let e := lastBit num den
  let (n, d) := rescale num den e
  ofMagnitude negative (min (roundQuotient n d + (e + 1074).toNat * twoTo 52) infiniteMagnitude)

/-- The number nearest to `num / den * 2 ^ exponent`, with a sign. -/
def ofScaled (negative : Bool) (num den : Nat) (exponent : Int) : Binary64 :=
  if 0 ≤ exponent then ofRatio negative (num * twoTo exponent.toNat) den
  else ofRatio negative num (den * twoTo (-exponent).toNat)

/-- The number nearest to a natural number. -/
def ofNat (n : Nat) : Binary64 := ofRatio false n 1

/-- The number nearest to `significand * 10 ^ exponent`. Far outside the binary64 range the
answer is clear from the number of digits, whatever the size of the exponent. -/
def ofDecimal (negative : Bool) (significand : Nat) (exponent : Int) : Binary64 :=
  let width : Int := (Nat.toDigits 10 significand).length + exponent
  if significand = 0 then ofMagnitude negative 0
  else if 400 < width then infinity negative
  else if width < -400 then ofMagnitude negative 0
  else if 0 ≤ exponent then ofRatio negative (significand * tenTo exponent.toNat) 1
  else ofRatio negative significand (tenTo (-exponent).toNat)

/-- The product of two finite numbers. -/
def mul (x y : Binary64) : Binary64 :=
  ofScaled (x.isNegative != y.isNegative) (x.significand * y.significand) 1
    (x.exponent + y.exponent)

/-- The quotient of two finite numbers, the second of them not zero. -/
def div (x y : Binary64) : Binary64 :=
  ofScaled (x.isNegative != y.isNegative) x.significand y.significand (x.exponent - y.exponent)

/-- The integer nearest to a finite number that is not negative, ties upward. -/
def roundUp (x : Binary64) : Nat :=
  if 0 ≤ x.exponent then x.significand * twoTo x.exponent.toNat
  else
    let unit := twoTo (-x.exponent).toNat
    (2 * x.significand + unit) / (2 * unit)

end TrackSelect.Binary64
