import TrackSelect.Binary64.Rounding
import TrackSelect.Json.Value

/-!
# Numbers of a JSON text

A number is written as a sign, whole digits, perhaps a fraction and perhaps an exponent. A whole
number that fits 64 bits stands for itself. Any other number is scaled from its leading digits,
as many as fit 64 bits: their nearest binary64 number, multiplied or divided by the power of ten.
A number beyond the binary64 range has no value.
-/

namespace TrackSelect.Json

/-- The parts of a number as written. `fraction` and `exponent` are empty or `none` when there is
no point or no exponent; an exponent has its sign apart. -/
structure NumberText where
  negative : Bool
  whole : List Char
  fraction : List Char
  exponent : Option (Bool × List Char)

namespace NumberText

/-- One more than the largest number of 64 bits. -/
def word : Nat := twoTo 64

/-- Read digits behind a significand while it stays below `2 ^ 64`; the rest is left over. -/
def takeDigits (significand : Nat) : List Char → Nat × List Char
  | [] => (significand, [])
  | c :: rest =>
    let next := significand * 10 + (c.toNat - '0'.toNat)
    if next < word then takeDigits next rest else (significand, c :: rest)

/-- Scale a number by a power of ten, in steps that fit the range of binary64. A result beyond
the range is `none`; what is smaller than every positive number is zero. -/
def scale (x : Binary64) (exponent : Int) : Option Binary64 :=
  let power (n : Nat) := Binary64.ofDecimal false 1 n
  if exponent < -308 then
    if x.significand = 0 then some x else scale (x.div (power 308)) (exponent + 308)
  else if exponent < 0 then some (x.div (power (-exponent).toNat))
  else if 308 < exponent then (if x.significand = 0 then some x else none)
  else
    let y := x.mul (power exponent.toNat)
    if y.isFinite then some y else none
termination_by (-exponent).toNat

/-- Give a number that was scaled without its sign the sign it was written with. -/
def withSign (negative : Bool) (x : Binary64) : Binary64 :=
  Binary64.ofMagnitude negative x.magnitude

/-- The binary64 number of a significand, a power of ten and a written exponent. An exponent
beyond 31 bits settles the result by its sign. -/
def float? (text : NumberText) (significand : Nat) (shift : Int) : Option Binary64 :=
  let scaled := match text.exponent with
    | none => scale (Binary64.ofNat significand) shift
    | some (down, ds) =>
      let e : Int := Nat.ofDigitChars 10 ds 0
      if e < twoTo 31 then
        scale (Binary64.ofNat significand) (if down then shift - e else shift + e)
      else if down || significand = 0 then some (Binary64.ofNat 0)
      else none
  scaled.map (withSign text.negative)

/-- The value of a number. -/
def value? (text : NumberText) : Option Number :=
  let (leading, left) := takeDigits 0 text.whole
  if text.fraction = [] && text.exponent.isNone && left = [] then
    if !text.negative then some (.natural leading)
    else if 0 < leading && leading ≤ twoTo 63 then some (.negative leading)
    else some (.float (withSign true (Binary64.ofNat leading)))
  else
    let (significand, dropped) := takeDigits leading text.fraction
    let shift : Int := left.length - (text.fraction.length - dropped.length : Nat)
    (text.float? significand shift).map .float

end NumberText

end TrackSelect.Json
