import TrackSelect.Proofs.Text.Scanning
import TrackSelect.Text.Numeral

/-!
# Written numbers

A number is written in ASCII digits, with zeros in front up to a least width. The zeros change
nothing of what it stands for (`unsigned?_padded`), and the width is exact as long as the number
has no more digits (`length_padded`, `lt_length_padded`). A reader takes a sign as well: it reads
all that `Writes` a number (`unsigned?_eq_some`).
-/

namespace TrackSelect.Text

/-! ## Characters -/

theorem isDigit_of_mem_digits {n : Nat} {c : Char} (h : c ∈ digits n) : c.isDigit = true :=
  Nat.isDigit_of_mem_toDigits (by decide) (by decide) h

theorem isDigit_of_mem_padded {width n : Nat} {c : Char} (h : c ∈ padded width n) :
    c.isDigit = true := by
  rw [padded, List.leftpad, List.mem_append, List.mem_replicate] at h
  rcases h with ⟨-, rfl⟩ | h
  · rfl
  · exact isDigit_of_mem_digits h

theorem digits_ne_nil (n : Nat) : digits n ≠ [] := Nat.toDigits_ne_nil

theorem toList_toString (n : Nat) : (toString n).toList = digits n := by
  rw [Nat.toString_eq_ofList_toDigits, String.toList_ofList, digits]

/-- Numbers with the same digits are the same. -/
theorem digits_inj {m n : Nat} (h : digits m = digits n) : m = n := by
  have hread := congrArg natural? h
  simpa only [natural?_digits, Option.some.injEq] using hread

theorem padded_ne_nil (width n : Nat) : padded width n ≠ [] :=
  List.append_ne_nil_of_right_ne_nil _ (digits_ne_nil n)

/-! ## Reading back -/

theorem natural?_padded (width n : Nat) : natural? (padded width n) = some n := by
  have hall : (padded width n).all Char.isDigit = true :=
    List.all_eq_true.2 fun c hc => isDigit_of_mem_padded hc
  have hvalue : Nat.ofDigitChars 10 (padded width n) 0 = n := by
    rw [padded, List.leftpad, Nat.ofDigitChars_append, Nat.ofDigitChars_replicate_zero, Nat.mul_zero,
      digits, Nat.ofDigitChars_ten_toDigits]
  simp [natural?, hall, padded_ne_nil, hvalue]

/-- A run of digits has no sign. -/
theorem unsigned?_of_isDigit {cs : List Char} (h : ∀ c ∈ cs, c.isDigit = true) (bound : Nat) :
    unsigned? bound cs = (natural? cs).filter (· < bound) := by
  unfold unsigned?
  split
  · next rest =>
    exact absurd (h '+' List.mem_cons_self) (by decide)
  · rfl

/-- **A number below a bound is read back**, whatever width it is written in. -/
theorem unsigned?_padded (width : Nat) {n bound : Nat} (h : n < bound) :
    unsigned? bound (padded width n) = some n := by
  rw [unsigned?_of_isDigit fun c hc => isDigit_of_mem_padded hc, natural?_padded]
  simp [h]

theorem unsigned?_digits {n bound : Nat} (h : n < bound) : unsigned? bound (digits n) = some n := by
  rw [unsigned?_of_isDigit fun c hc => isDigit_of_mem_digits hc, natural?_digits]
  simp [h]

/-- A run of digits, and the number that it stands for. -/
def IsNumeral (cs : List Char) (n : Nat) : Prop :=
  cs ≠ [] ∧ (∀ c ∈ cs, c.isDigit = true) ∧ Nat.ofDigitChars 10 cs 0 = n

/-- How a number may be written: ASCII digits, after a plus sign or none. -/
inductive Writes : List Char → Nat → Prop where
  | plain {digits : List Char} (hne : digits ≠ []) (hdigits : ∀ c ∈ digits, c.isDigit = true) :
    Writes digits (Nat.ofDigitChars 10 digits 0)
  | signed {digits : List Char} (hne : digits ≠ []) (hdigits : ∀ c ∈ digits, c.isDigit = true) :
    Writes ('+' :: digits) (Nat.ofDigitChars 10 digits 0)

theorem natural?_eq_some {cs : List Char} {n : Nat} : natural? cs = some n ↔ IsNumeral cs n := by
  simp [natural?, IsNumeral, and_assoc]

/-- **A text is read as the number that it writes**, if that is below the bound. -/
theorem unsigned?_eq_some {bound : Nat} {cs : List Char} {n : Nat} :
    unsigned? bound cs = some n ↔ Writes cs n ∧ n < bound := by
  simp only [unsigned?, Option.filter_eq_some_iff, decide_eq_true_eq]
  refine and_congr_left fun _ => ⟨fun h => ?_, fun h => ?_⟩
  · split at h
    · obtain ⟨hne, hdigits, rfl⟩ := natural?_eq_some.1 h
      exact .signed hne hdigits
    · obtain ⟨hne, hdigits, rfl⟩ := natural?_eq_some.1 h
      exact .plain hne hdigits
  · cases h with
    | signed hne hdigits => exact natural?_eq_some.2 ⟨hne, hdigits, rfl⟩
    | plain hne hdigits =>
      split
      · next rest =>
        -- a sign is no digit
        exact absurd (hdigits '+' List.mem_cons_self) (by decide)
      · exact natural?_eq_some.2 ⟨hne, hdigits, rfl⟩

theorem IsNumeral.writes {cs : List Char} {n : Nat} (h : IsNumeral cs n) : Writes cs n := by
  obtain ⟨hne, hdigits, rfl⟩ := h
  exact .plain hne hdigits

theorem Writes.isNumeral {cs : List Char} {n : Nat} (h : Writes cs n) (hplus : '+' ∉ cs) :
    IsNumeral cs n := by
  cases h with
  | plain hne hdigits => exact ⟨hne, hdigits, rfl⟩
  | signed => exact absurd List.mem_cons_self hplus

/-- What is read is below the bound. -/
theorem unsigned?_lt {bound : Nat} {cs : List Char} {n : Nat} (h : unsigned? bound cs = some n) :
    n < bound := by
  unfold unsigned? at h
  exact of_decide_eq_true (Option.filter_eq_some_iff.1 h).2

/-! ## Width -/

/-- A number grows tenfold with each digit behind it, and by less than ten. -/
theorem ofDigitChars_lt {cs : List Char} (h : ∀ c ∈ cs, c.isDigit = true) (n : Nat) :
    Nat.ofDigitChars 10 cs n < (n + 1) * tenTo cs.length := by
  induction cs generalizing n with
  | nil => simp [tenTo]
  | cons c cs ih =>
    have hdigit : c.toNat - '0'.toNat ≤ 9 :=
      Nat.sub_le_sub_right (toNat_of_isDigit (h c List.mem_cons_self)).2 48
    rw [Nat.ofDigitChars_cons]
    calc Nat.ofDigitChars 10 cs (10 * n + (c.toNat - '0'.toNat))
        < (10 * n + (c.toNat - '0'.toNat) + 1) * tenTo cs.length :=
          ih (fun d hd => h d (List.mem_cons_of_mem c hd)) _
      _ ≤ ((n + 1) * 10) * tenTo cs.length := Nat.mul_le_mul_right _ (by omega)
      _ = (n + 1) * tenTo (c :: cs).length := by
          rw [List.length_cons, Nat.mul_assoc, Nat.mul_comm 10]
          rfl

/-- A numeral stands for a number of no more digits than it has. -/
theorem IsNumeral.lt_tenTo {cs : List Char} {n : Nat} (h : IsNumeral cs n) :
    n < tenTo cs.length := by
  obtain ⟨-, hdigits, rfl⟩ := h
  simpa using ofDigitChars_lt hdigits 0

/-- A sign only takes the place of a digit. -/
theorem Writes.lt_tenTo {cs : List Char} {n : Nat} (h : Writes cs n) : n < tenTo cs.length := by
  cases h with
  | plain hne hdigits => exact IsNumeral.lt_tenTo ⟨hne, hdigits, rfl⟩
  | @signed digits hne hdigits =>
    calc Nat.ofDigitChars 10 digits 0 < tenTo digits.length :=
          IsNumeral.lt_tenTo ⟨hne, hdigits, rfl⟩
      _ ≤ tenTo ('+' :: digits).length := Nat.pow_le_pow_right (by decide) (Nat.le_succ _)

theorem length_padded_eq_max (width n : Nat) :
    (padded width n).length = max width (digits n).length := List.length_leftpad

/-- A number with no more digits than the width is written in that width. -/
theorem length_padded {width n : Nat} (hwidth : 0 < width) (h : n < tenTo width) :
    (padded width n).length = width := by
  have hdigits : (digits n).length ≤ width := (Nat.length_toDigits_le_iff (by decide) hwidth).2 h
  rw [length_padded_eq_max, Nat.max_eq_left hdigits]

/-- A number with more digits than the width is written in more characters. -/
theorem lt_length_padded {width n : Nat} (hwidth : 0 < width) (h : tenTo width ≤ n) :
    width < (padded width n).length := by
  have hdigits : width < (digits n).length := by
    rw [← Nat.not_le]
    exact fun hle => absurd ((Nat.length_toDigits_le_iff (by decide) hwidth).1 hle) (Nat.not_lt.2 h)
  rw [length_padded_eq_max]
  exact Nat.lt_of_lt_of_le hdigits (Nat.le_max_right _ _)

end TrackSelect.Text
