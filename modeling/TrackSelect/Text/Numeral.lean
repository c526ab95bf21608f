import TrackSelect.Powers

/-!
# Numerals

Natural numbers in ASCII decimal digits: writing (`digits`, `padded`), and reading with the
bounds of a fixed width (`unsigned?`). `inBase?` reads digits of other bases.
-/

namespace TrackSelect.Text

/-- The decimal digits of a number, without leading zeros. -/
def digits (n : Nat) : List Char := Nat.toDigits 10 n

/-- The decimal digits of a number, with zeros in front up to a least width. -/
def padded (width n : Nat) : List Char := (digits n).leftpad width '0'

/-- The number a non-empty run of ASCII digits stands for. -/
def natural? (cs : List Char) : Option Nat :=
  if cs ≠ [] && cs.all Char.isDigit then some (Nat.ofDigitChars 10 cs 0) else none

/-- An unsigned number below a bound: ASCII digits, after a plus sign or none. -/
def unsigned? (bound : Nat) (cs : List Char) : Option Nat :=
  let number := match cs with
    | '+' :: rest => natural? rest
    | _ => natural? cs
  number.filter (· < bound)

/-- The value of a hexadecimal digit. -/
def hexDigit? (c : Char) : Option Nat :=
  if '0' ≤ c && c ≤ '9' then some (c.toNat - '0'.toNat)
  else if 'a' ≤ c && c ≤ 'f' then some (c.toNat - 'a'.toNat + 10)
  else if 'A' ≤ c && c ≤ 'F' then some (c.toNat - 'A'.toNat + 10)
  else none

/-- The number that a non-empty run of digits below a base of up to 16 stands for. -/
def inBase? (base : Nat) (cs : List Char) : Option Nat :=
  if cs = [] then none
  else
    (cs.mapM fun c => (hexDigit? c).filter (· < base)).map fun ds =>
      ds.foldl (fun n d => n * base + d) 0

@[simp] theorem natural?_digits (n : Nat) : natural? (digits n) = some n := by
  have hall : (digits n).all Char.isDigit = true := by
    rw [List.all_eq_true]
    intro c hc
    exact Nat.isDigit_of_mem_toDigits (by decide) (by decide) hc
  have hne : digits n ≠ [] := Nat.toDigits_ne_nil
  simp [natural?, hall, hne]
  simp [digits, Nat.ofDigitChars_ten_toDigits]

end TrackSelect.Text
