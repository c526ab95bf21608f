import Mathlib.Data.List.TakeWhile
import TrackSelect.Binary64.Reading
import TrackSelect.Proofs.Text.Scanning

/-!
# Decimal literals

A literal is written in ASCII digits, perhaps with a point and more digits behind it. It is read as
the binary64 number nearest to its exact value (`read?_chars`): no word stands for it, no sign is
taken from it and no exponent.
-/

namespace TrackSelect.Binary64

/-- A number that is not negative, as it is written without an exponent. -/
structure Literal where
  /-- The digits in front of the point. -/
  whole : List Char
  /-- The digits behind the point. A literal without them has no point. -/
  fraction : List Char
  whole_ne_nil : whole ≠ []
  isDigit_whole : ∀ c ∈ whole, c.isDigit = true
  isDigit_fraction : ∀ c ∈ fraction, c.isDigit = true

namespace Literal

/-- What stands behind the digits in front of the point. -/
def tail (literal : Literal) : List Char :=
  if literal.fraction = [] then [] else '.' :: literal.fraction

/-- The written form. -/
def chars (literal : Literal) : List Char := literal.whole ++ literal.tail

/-- The nearest binary64 number. -/
def value (literal : Literal) : Binary64 :=
  ofDecimal false (Nat.ofDigitChars 10 (literal.whole ++ literal.fraction) 0)
    (-literal.fraction.length)

/-- A literal starts with a digit. -/
theorem exists_chars_eq_cons (literal : Literal) :
    ∃ c rest, literal.chars = c :: rest ∧ c.isDigit = true := by
  obtain ⟨c, rest, hwhole⟩ := List.exists_cons_of_ne_nil literal.whole_ne_nil
  refine ⟨c, rest ++ literal.tail, ?_, literal.isDigit_whole c (by simp [hwhole])⟩
  rw [chars, hwhole, List.cons_append]

/-- The digits in front of the point are all there are at the start. -/
theorem head?_tail (literal : Literal) : ∀ c ∈ literal.tail.head?, c = '.' := by
  unfold tail
  split <;> simp

/-- A literal has digits and points only. -/
theorem isDigit_or_eq_of_mem_chars {literal : Literal} {c : Char} (h : c ∈ literal.chars) :
    c.isDigit = true ∨ c = '.' := by
  rw [chars, tail, List.mem_append] at h
  rcases h with h | h
  · exact .inl (literal.isDigit_whole c h)
  · split at h
    · contradiction
    · rcases List.mem_cons.1 h with rfl | h
      · exact .inr rfl
      · exact .inl (literal.isDigit_fraction c h)

end Literal

/-! ## Reading a literal -/

theorem toLower_of_isDigit {c : Char} (h : c.isDigit = true) : c.toLower = c := by
  have hle := (Text.toNat_of_isDigit h).2
  refine dif_neg fun hupper => ?_
  have hge : 65 ≤ c.toNat := UInt32.le_iff_toNat_le.1 hupper.1
  omega

/-- No word for a number starts with a digit. -/
theorem ofWord?_of_isDigit (negative : Bool) {c : Char} (hc : c.isDigit = true)
    (rest : List Char) : ofWord? negative (c :: rest) = none := by
  have hword : ∀ {word : String}, word.toList.head?.all (!Char.isDigit ·) = true →
      String.ofList ((c :: rest).map Char.toLower) ≠ word := by
    rintro _ hdigit rfl
    rw [String.toList_ofList, List.map_cons, toLower_of_isDigit hc] at hdigit
    simp [hc] at hdigit
  -- every word starts with a letter, and a digit stays a digit in lower case
  unfold ofWord?
  split
  · next h => exact absurd h (hword rfl)
  · next h => exact absurd h (hword rfl)
  · next h => exact absurd h (hword rfl)
  · rfl

theorem splitSign_of_isDigit {c : Char} (hc : c.isDigit = true) (rest : List Char) :
    splitSign (c :: rest) = (false, c :: rest) := by
  unfold splitSign
  split
  · next h =>
    obtain ⟨rfl, rfl⟩ := List.cons_eq_cons.1 h
    contradiction
  · next h =>
    obtain ⟨rfl, rfl⟩ := List.cons_eq_cons.1 h
    contradiction
  · rfl

/-- Digits, and perhaps a point with digits behind it, are read as a number. -/
theorem ofDigits?_chars (negative : Bool) (literal : Literal) :
    ofDigits? negative literal.chars = some (ofDecimal negative
      (Nat.ofDigitChars 10 (literal.whole ++ literal.fraction) 0) (-literal.fraction.length)) := by
  -- behind the first digits stands a point or nothing
  have hstop : ∀ c ∈ literal.tail.head?, c.isDigit = false := by
    intro c hc
    rw [literal.head?_tail c hc]
    rfl
  have htake := Text.takeWhile_run literal.isDigit_whole hstop
  have hdrop := Text.dropWhile_run literal.isDigit_whole hstop
  rw [ofDigits?, Literal.chars, htake, hdrop, Literal.tail]
  by_cases hfraction : literal.fraction = []
  · simp [hfraction, literal.whole_ne_nil, exponentPart?]
  · have hall : literal.fraction.takeWhile Char.isDigit = literal.fraction :=
      List.takeWhile_eq_self_iff.2 literal.isDigit_fraction
    have hnone : literal.fraction.dropWhile Char.isDigit = [] :=
      List.dropWhile_eq_nil_iff.2 literal.isDigit_fraction
    simp [hfraction, hall, hnone, exponentPart?]

/-- **A literal is read as the number nearest to it.** -/
theorem read?_chars (literal : Literal) : read? literal.chars = some literal.value := by
  obtain ⟨c, rest, hchars, hc⟩ := literal.exists_chars_eq_cons
  have hdigits := ofDigits?_chars false literal
  rw [hchars] at hdigits
  rw [read?, hchars, splitSign_of_isDigit hc]
  simp only []
  rw [ofWord?_of_isDigit false hc, hdigits, Option.none_or, Literal.value]

end TrackSelect.Binary64
