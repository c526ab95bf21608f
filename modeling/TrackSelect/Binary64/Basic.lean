import TrackSelect.Powers

/-!
# Binary64 numbers

Durations are IEEE-754 binary64 numbers, kept here as their 64 bits. The bits below the sign are
the magnitude: read as one natural number they are ordered as the absolute values are, which
gives the order of the numbers (`rank?`, `compare?`) without any arithmetic on them. A NaN has no
rank, and the two zeros have the same one.
-/

namespace TrackSelect

/-- A binary64 number, by its bits. -/
structure Binary64 where
  bits : UInt64
deriving DecidableEq, Repr

namespace Binary64

/-- The sign bit. -/
def isNegative (x : Binary64) : Bool := twoTo 63 ≤ x.bits.toNat

/-- The exponent and fraction bits, as one number. -/
def magnitude (x : Binary64) : Nat := x.bits.toNat % twoTo 63

/-- The magnitude of the two infinities; every larger one is a NaN. -/
def infiniteMagnitude : Nat := 0x7FF * twoTo 52

/-- The number with a sign and a magnitude below `2 ^ 63`. -/
def ofMagnitude (negative : Bool) (magnitude : Nat) : Binary64 :=
  ⟨UInt64.ofNat (magnitude + if negative then twoTo 63 else 0)⟩

def infinity (negative : Bool) : Binary64 := ofMagnitude negative infiniteMagnitude

def nan : Binary64 := ofMagnitude false (infiniteMagnitude + twoTo 51)

def isNaN (x : Binary64) : Bool := infiniteMagnitude < x.magnitude

def isFinite (x : Binary64) : Bool := x.magnitude < infiniteMagnitude

/-- The integer significand of a finite number, which is `significand * 2 ^ exponent` up to its
sign. -/
def significand (x : Binary64) : Nat :=
  if x.magnitude < twoTo 52 then x.magnitude else twoTo 52 + x.magnitude % twoTo 52

/-- The binary exponent that goes with `significand`. -/
def exponent (x : Binary64) : Int :=
  if x.magnitude < twoTo 52 then -1074 else (x.magnitude / twoTo 52 : Nat) - 1075

/-- The place of a number in the order of all numbers; a NaN has none. -/
def rank? (x : Binary64) : Option Int :=
  if x.isNaN then none
  else some (if x.isNegative then -(x.magnitude : Int) else x.magnitude)

/-- The order of two numbers, if both have a rank. -/
def compare? (x y : Binary64) : Option Ordering :=
  match x.rank?, y.rank? with
  | some a, some b => some (compare a b)
  | _, _ => none

theorem compare?_self_isSome (x : Binary64) : (x.compare? x).isSome = !x.isNaN := by
  cases h : x.isNaN <;> simp [compare?, rank?, h]

end Binary64

end TrackSelect
