import TrackSelect.Binary64.Rounding

/-!
# Reading decimal numbers

A number as people write it: an optional sign, digits with at most one point among or around
them, and an optional exponent; or a word for infinity or NaN, in any case. What is read is the
nearest binary64 number.
-/

namespace TrackSelect.Binary64

/-- A leading sign, if there is one: whether it is a minus, and the text behind it. -/
def splitSign : List Char → Bool × List Char
  | '-' :: rest => (true, rest)
  | '+' :: rest => (false, rest)
  | cs => (false, cs)

/-- The words for numbers that are not finite. -/
def ofWord? (negative : Bool) (word : List Char) : Option Binary64 :=
  match String.ofList (word.map Char.toLower) with
  | "inf" | "infinity" => some (infinity negative)
  | "nan" => some (ofMagnitude negative nan.magnitude)
  | _ => none

/-- The exponent part behind the digits: nothing, or `e` and a whole number. -/
def exponentPart? : List Char → Option Int
  | [] => some 0
  | c :: rest =>
    if c = 'e' || c = 'E' then
      let (negative, ds) := splitSign rest
      if ds ≠ [] && ds.all Char.isDigit then
        let n : Int := Nat.ofDigitChars 10 ds 0
        some (if negative then -n else n)
      else none
    else none

/-- Digits, point and exponent. -/
def ofDigits? (negative : Bool) (cs : List Char) : Option Binary64 :=
  let whole := cs.takeWhile Char.isDigit
  let (fraction, rest) := match cs.dropWhile Char.isDigit with
    | '.' :: rest => (rest.takeWhile Char.isDigit, rest.dropWhile Char.isDigit)
    | rest => ([], rest)
  if whole ++ fraction = [] then none else
  (exponentPart? rest).map fun exponent =>
    ofDecimal negative (Nat.ofDigitChars 10 (whole ++ fraction) 0) (exponent - fraction.length)

/-- The number a text stands for. -/
def read? (cs : List Char) : Option Binary64 :=
  let (negative, body) := splitSign cs
  (ofWord? negative body).or (ofDigits? negative body)

end TrackSelect.Binary64
