import TrackSelect.Binary64.Rounding

/-!
# Rounding

A quotient is rounded to one of the two integers next to it, and rounding keeps the order
(`roundQuotient_mono`). A natural number of 64 bits is far below the largest binary64 number, so
the number nearest to it is finite (`isFinite_ofNat`).
-/

namespace TrackSelect.Binary64

/-! ## Quotients -/

/-- A quotient is rounded to the next integer below it or above it. -/
theorem roundQuotient_eq_or (num den : Nat) :
    roundQuotient num den = num / den ∨ roundQuotient num den = num / den + 1 := by
  unfold roundQuotient
  dsimp only
  split
  · exact Or.inr rfl
  · exact Or.inl rfl

/-- A quotient that is an integer stays as it is. -/
theorem roundQuotient_mul_of_dvd {num den : Nat} (hden : 0 < den) (h : den ∣ num) :
    roundQuotient num den * den = num := by
  have hremainder : num % den = 0 := Nat.mod_eq_zero_of_dvd h
  have hne : 0 ≠ den := Nat.ne_of_lt hden
  have hquotient : roundQuotient num den = num / den := by simp [roundQuotient, hremainder, hne]
  rw [hquotient, Nat.div_mul_cancel h]

/-- Rounding depends on the value of a quotient alone. -/
theorem roundQuotient_mul_mul (num den : Nat) {scale : Nat} (hscale : 0 < scale) :
    roundQuotient (num * scale) (den * scale) = roundQuotient num den := by
  have htwice : 2 * (num % den * scale) = 2 * (num % den) * scale := by rw [Nat.mul_assoc]
  have hlt : den * scale < 2 * (num % den) * scale ↔ den < 2 * (num % den) :=
    Nat.mul_lt_mul_right hscale
  have heq : 2 * (num % den) * scale = den * scale ↔ 2 * (num % den) = den :=
    Nat.mul_left_inj (Nat.pos_iff_ne_zero.1 hscale)
  unfold roundQuotient
  simp only [Nat.mul_div_mul_right _ _ hscale, Nat.mul_mod_mul_right, htwice, hlt,
    Bool.beq_eq_decide_eq, heq]

/-- Rounding keeps the order. -/
theorem roundQuotient_mono {m n : Nat} (den : Nat) (h : m ≤ n) :
    roundQuotient m den ≤ roundQuotient n den := by
  have hquotient : m / den ≤ n / den := Nat.div_le_div_right h
  rcases Nat.lt_or_eq_of_le hquotient with hlt | heq
  · have hm := roundQuotient_eq_or m den
    have hn := roundQuotient_eq_or n den
    omega
  · -- with the same quotient the remainders decide, and they are in order too
    have hremainder : m % den ≤ n % den := by
      have hm := Nat.div_add_mod m den
      have hn := Nat.div_add_mod n den
      rw [heq] at hm
      omega
    unfold roundQuotient
    dsimp only
    rw [heq]
    grind

/-! ## Natural numbers -/

/-- The place of the last significand bit is never far below the place of the first bit. -/
theorem le_lastBit (n : Nat) : (n.log2 : Int) - 53 ≤ lastBit n 1 := by
  have hone : Nat.log2 1 = 0 := by decide
  unfold lastBit
  rw [hone]
  dsimp only
  split <;> omega

/-- Nor is it above the place 52 bits below the first, unless that is a place too low. -/
theorem lastBit_le (n : Nat) : lastBit n 1 ≤ max ((n.log2 : Int) - 52) (-1074) := by
  have hone : Nat.log2 1 = 0 := by decide
  unfold lastBit
  rw [hone]
  dsimp only
  split <;> omega

/-- The significand of a natural number has 53 bits, or it is rounded to the next power of two. -/
theorem roundQuotient_le {n num den : Nat} (h : rescale n 1 (lastBit n 1) = (num, den)) :
    roundQuotient num den ≤ twoTo 54 := by
  have hlow := le_lastBit n
  have hn : n < twoTo (n.log2 + 1) := Nat.lt_log2_self
  -- the quotient is below `2 ^ 54`, so rounding cannot take it further than that
  have hquotient : num / den < twoTo 54 := by
    unfold rescale at h
    split at h
    · obtain ⟨rfl, rfl⟩ := Prod.mk.inj h
      refine Nat.div_lt_of_lt_mul ?_
      calc n < twoTo (n.log2 + 1) := hn
        _ ≤ twoTo ((lastBit n 1).toNat + 54) := Nat.pow_le_pow_right (by decide) (by omega)
        _ = 1 * twoTo (lastBit n 1).toNat * twoTo 54 := by
          rw [Nat.one_mul]
          exact Nat.pow_add 2 _ _
    · obtain ⟨rfl, rfl⟩ := Prod.mk.inj h
      rw [Nat.div_one]
      calc n * twoTo (-lastBit n 1).toNat < twoTo (n.log2 + 1) * twoTo (-lastBit n 1).toNat :=
            Nat.mul_lt_mul_of_pos_right hn (twoTo_pos _)
        _ = twoTo (n.log2 + 1 + (-lastBit n 1).toNat) := (Nat.pow_add 2 _ _).symm
        _ ≤ twoTo 54 := Nat.pow_le_pow_right (by decide) (by omega)
  have hround := roundQuotient_eq_or num den
  omega

/-- A magnitude is read back from the bits of a number without a sign. -/
theorem magnitude_ofMagnitude {magnitude : Nat} (h : magnitude < twoTo 63) :
    (ofMagnitude false magnitude).magnitude = magnitude := by
  have hword : magnitude < 2 ^ 64 := Nat.lt_trans h (by decide)
  unfold Binary64.magnitude ofMagnitude
  rw [if_neg Bool.false_ne_true, Nat.add_zero, UInt64.toNat_ofNat_of_lt' hword]
  exact Nat.mod_eq_of_lt h

/-- **The number nearest to a natural number of 64 bits is finite.** -/
theorem isFinite_ofNat {n : Nat} (h : n < twoTo 64) : (ofNat n).isFinite = true := by
  by_cases hn : n = 0
  · subst hn
    decide
  · have hlog : n.log2 < 64 := (Nat.log2_lt hn).2 h
    have hhigh := lastBit_le n
    have hplaces : (lastBit n 1 + 1074).toNat * twoTo 52 ≤ 1085 * twoTo 52 :=
      Nat.mul_le_mul_right _ (by omega)
    rw [ofNat, ofRatio, if_neg hn]
    extract_lets e
    cases hscaled : rescale n 1 e with
    | mk num den =>
      -- 1089 binades above zero, of the 2047 below the infinities
      have hbelow : roundQuotient num den + (e + 1074).toNat * twoTo 52 < infiniteMagnitude :=
        Nat.lt_of_le_of_lt (Nat.add_le_add (roundQuotient_le hscaled) hplaces) (by decide)
      have hword := Nat.lt_trans hbelow (by decide : infiniteMagnitude < twoTo 63)
      show (ofMagnitude false _).isFinite = true
      rw [Nat.min_eq_left (Nat.le_of_lt hbelow)]
      exact decide_eq_true (by rw [magnitude_ofMagnitude hword]; exact hbelow)

end TrackSelect.Binary64
