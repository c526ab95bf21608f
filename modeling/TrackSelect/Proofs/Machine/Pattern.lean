import Mathlib.Data.List.Forall2
import Mathlib.Data.List.Pairwise
import TrackSelect.Machine.Shell.Pattern

/-!
# What patterns fit

A pattern accepts a text that can be cut into parts, each of them taken by the part of the pattern
in its place (`Accepts`). Trying the shortest part for a star first finds out whether there is such
a cut (`matchesAll_iff`). So a pattern of quoted characters fits its own text only
(`matchesAll_quoted_iff`), and a text is left without the shortest or the longest part at one of its
ends that is accepted (`dropStart_spec`, `dropEnd_spec`).
-/

namespace TrackSelect.Shell

/-- What one part of a pattern takes. -/
def Fit.Takes : Fit → List Char → Prop
  | .any, _ => True
  | .one, cs => ∃ c, cs = [c]
  | .char d, cs => cs = [d]
  | .among inside ranges, cs =>
    ∃ c, cs = [c] ∧ ((∃ range ∈ ranges, range.1 ≤ c ∧ c ≤ range.2) ↔ inside = true)

/-- But for a star, a part takes a single character. -/
theorem Fit.Takes.single {fit : Fit} {cs : List Char} (h : fit.Takes cs) (hany : fit ≠ .any) :
    ∃ c, cs = [c] := by
  cases fit with
  | any => exact absurd rfl hany
  | one => exact h
  | char d => exact ⟨d, h⟩
  | among inside ranges =>
    obtain ⟨c, hc, -⟩ := h
    exact ⟨c, hc⟩

theorem Fit.takes_among_iff {inside : Bool} {ranges : List (Char × Char)} {c : Char} :
    (Fit.among inside ranges).Takes [c] ↔
      (ranges.any fun (a, b) => a ≤ c && c ≤ b) = inside := by
  rw [Bool.eq_iff_iff, List.any_eq_true]
  constructor
  · rintro ⟨_, ⟨rfl⟩, h⟩
    simpa using h
  · exact fun h => ⟨c, rfl, by simpa using h⟩

namespace Pattern

/-- A text is cut into what the parts of a pattern take. -/
def Accepts (pattern : List Fit) (cs : List Char) : Prop :=
  ∃ parts, List.Forall₂ Fit.Takes pattern parts ∧ parts.flatten = cs

theorem accepts_nil_iff {cs : List Char} : Accepts [] cs ↔ cs = [] := by
  constructor
  · rintro ⟨_, ⟨⟩, rfl⟩
    rfl
  · rintro rfl
    exact ⟨[], .nil, rfl⟩

theorem accepts_cons_iff {fit : Fit} {rest : List Fit} {cs : List Char} :
    Accepts (fit :: rest) cs ↔
      ∃ front behind, cs = front ++ behind ∧ fit.Takes front ∧ Accepts rest behind := by
  constructor
  · rintro ⟨_, ⟨⟩ | ⟨hfront, hbehind⟩, rfl⟩
    exact ⟨_, _, rfl, hfront, _, hbehind, rfl⟩
  · rintro ⟨front, _, rfl, hfront, parts, hbehind, rfl⟩
    exact ⟨front :: parts, .cons hfront hbehind, rfl⟩

/-- But for a star, the first part of a pattern takes the first character of a text. -/
theorem accepts_cons_cons_iff {fit : Fit} {rest : List Fit} {c : Char} {cs : List Char}
    (hany : fit ≠ .any) : Accepts (fit :: rest) (c :: cs) ↔ fit.Takes [c] ∧ Accepts rest cs := by
  rw [accepts_cons_iff]
  constructor
  · rintro ⟨front, behind, hcut, hfront, hbehind⟩
    obtain ⟨d, rfl⟩ := hfront.single hany
    cases hcut
    exact ⟨hfront, hbehind⟩
  · rintro ⟨hfront, hbehind⟩
    exact ⟨[c], cs, rfl, hfront, hbehind⟩

/-- A star takes nothing, or the first character and what it takes behind that. -/
theorem accepts_any_cons_iff {rest : List Fit} {c : Char} {cs : List Char} :
    Accepts (.any :: rest) (c :: cs) ↔ Accepts rest (c :: cs) ∨ Accepts (.any :: rest) cs := by
  rw [accepts_cons_iff, accepts_cons_iff]
  constructor
  · rintro ⟨_ | ⟨d, front⟩, behind, hcut, -, hbehind⟩
    · cases hcut
      exact .inl hbehind
    · cases hcut
      exact .inr ⟨front, behind, rfl, trivial, hbehind⟩
  · rintro (h | ⟨front, behind, rfl, -, hbehind⟩)
    · exact ⟨[], c :: cs, rfl, trivial, h⟩
    · exact ⟨c :: front, behind, rfl, trivial, hbehind⟩

/-- **Whether a pattern fits is found out** for every pattern and every text. -/
theorem matchesAll_iff (pattern : List Fit) (cs : List Char) :
    matchesAll pattern cs = true ↔ Accepts pattern cs := by
  fun_induction matchesAll pattern cs with
  | case1 cs => rw [accepts_nil_iff, List.isEmpty_iff]
  | case2 rest ih =>
    rw [ih, accepts_cons_iff]
    constructor
    · exact fun h => ⟨[], [], rfl, trivial, h⟩
    · rintro ⟨front, behind, hcut, -, hbehind⟩
      rwa [(List.append_eq_nil_iff.1 hcut.symm).2] at hbehind
  | case3 rest c cs ihshort ihlong => rw [Bool.or_eq_true, ihshort, ihlong, accepts_any_cons_iff]
  | case4 fit rest hany =>
    refine iff_of_false Bool.false_ne_true fun h => ?_
    obtain ⟨front, behind, hcut, hfront, -⟩ := accepts_cons_iff.1 h
    obtain ⟨c, rfl⟩ := hfront.single hany
    cases hcut
  | case5 rest c cs ih =>
    rw [ih, accepts_cons_cons_iff (by simp)]
    exact (and_iff_right ⟨c, rfl⟩).symm
  | case6 d rest c cs ih =>
    rw [Bool.and_eq_true, ih, accepts_cons_cons_iff (by simp)]
    simp [Fit.Takes]
  | case7 inside ranges rest c cs ih =>
    rw [Bool.and_eq_true, ih, accepts_cons_cons_iff (by simp), Fit.takes_among_iff,
      decide_eq_true_eq]

/-! ## Quoted characters -/

/-- A quoted character is a part of a pattern for itself. -/
theorem fits_quoted (fuel : Nat) (cs : List Char) (h : cs.length ≤ fuel) :
    fits fuel (cs.map (⟨·, false⟩)) = cs.map .char := by
  induction cs generalizing fuel with
  | nil => cases fuel <;> rfl
  | cons c cs ih =>
    obtain ⟨fuel, rfl⟩ := Nat.exists_eq_add_one.2 (Nat.lt_of_lt_of_le (Nat.succ_pos _) h)
    have hfirst : fits (fuel + 1) ((c :: cs).map (⟨·, false⟩)) =
        .char c :: fits fuel (cs.map (⟨·, false⟩)) := rfl
    rw [hfirst, ih fuel (Nat.le_of_succ_le_succ h), List.map_cons]

theorem accepts_chars_iff {cs text : List Char} : Accepts (cs.map .char) text ↔ text = cs := by
  induction cs generalizing text with
  | nil => exact accepts_nil_iff
  | cons c cs ih =>
    rw [List.map_cons, accepts_cons_iff]
    constructor
    · rintro ⟨front, behind, rfl, rfl, hbehind⟩
      rw [ih.1 hbehind]
      rfl
    · rintro rfl
      exact ⟨[c], cs, rfl, rfl, ih.2 rfl⟩

/-- **A quoted text fits itself only**, whatever characters are in it. -/
theorem matchesAll_quoted_iff (cs text : List Char) :
    matchesAll (ofMarks (cs.map (⟨·, false⟩))) text = true ↔ text = cs := by
  rw [matchesAll_iff, ofMarks, fits_quoted _ _ (Nat.le_of_eq (List.length_map _).symm),
    accepts_chars_iff]

/-! ## Parts of a text -/

/-- The least or the greatest of the numbers below a bound that have some property. -/
structure IsExtreme (greatest : Bool) (bound : Nat) (p : Nat → Prop) (n : Nat) : Prop where
  lt : n < bound
  holds : p n
  beyond : ∀ k < bound, p k → if greatest then k ≤ n else n ≤ k

section Trimming

variable {bound : Nat} {p : Nat → Bool} {n : Nat}

theorem sorted_filter_range (bound : Nat) (p : Nat → Bool) :
    ((List.range bound).filter p).Pairwise (· ≤ ·) :=
  List.pairwise_le_range.filter p

/-- The numbers with a property come in their order, so the first of them is the least. -/
theorem isExtreme_of_head? (h : ((List.range bound).filter p).head? = some n) :
    IsExtreme false bound (p · = true) n := by
  have hmem := List.mem_filter.1 (List.mem_of_mem_head? h)
  refine ⟨List.mem_range.1 hmem.1, hmem.2, fun k hk hp => ?_⟩
  have hsorted := sorted_filter_range bound p
  obtain ⟨rest, hrest⟩ := List.head?_eq_some_iff.1 h
  have hother := List.mem_filter.2 ⟨List.mem_range.2 hk, hp⟩
  rw [hrest] at hsorted hother
  exact hsorted.rel_head hother

/-- The last of them is the greatest. -/
theorem isExtreme_of_getLast? (h : ((List.range bound).filter p).getLast? = some n) :
    IsExtreme true bound (p · = true) n := by
  have hmem := List.mem_filter.1 (List.mem_of_getLast? h)
  refine ⟨List.mem_range.1 hmem.1, hmem.2, fun k hk hp => ?_⟩
  have hsorted := sorted_filter_range bound p
  obtain ⟨front, hfront⟩ := List.getLast?_eq_some_iff.1 h
  have hother := List.mem_filter.2 ⟨List.mem_range.2 hk, hp⟩
  rw [hfront] at hsorted hother
  have hlast := hsorted.rel_getLast hother
  rwa [List.getLast_append_singleton] at hlast

/-- Either end of the numbers with a property is an extreme one, if there are any. -/
theorem isExtreme_or_none (greatest : Bool) (bound : Nat) (p : Nat → Bool) :
    (∃ n, (if greatest then ((List.range bound).filter p).getLast?
        else ((List.range bound).filter p).head?) = some n ∧
        IsExtreme greatest bound (p · = true) n) ∨
      (List.range bound).filter p = [] := by
  by_cases hnone : (List.range bound).filter p = []
  · exact .inr hnone
  · left
    cases greatest with
    | false =>
      have hfirst := List.head?_eq_some_head hnone
      exact ⟨_, hfirst, isExtreme_of_head? hfirst⟩
    | true =>
      have hlast := List.getLast?_eq_some_getLast hnone
      exact ⟨_, hlast, isExtreme_of_getLast? hlast⟩

/-- What is left of a text goes by the extreme number for which a pattern fits a part of it. -/
theorem left_of_extreme (greatest : Bool) (pattern : List Fit) (cs : List Char)
    (part left : Nat → List Char) {default : Nat} (hdefault : left default = cs) :
    let found := (List.range (cs.length + 1)).filter fun n => matchesAll pattern (part n)
    (∃ n, IsExtreme greatest (cs.length + 1) (fun n => Accepts pattern (part n)) n ∧
        left ((if greatest then found.getLast? else found.head?).getD default) = left n) ∨
      (∀ n ≤ cs.length, ¬ Accepts pattern (part n)) ∧
        left ((if greatest then found.getLast? else found.head?).getD default) = cs := by
  simp only [← matchesAll_iff]
  rcases isExtreme_or_none greatest (cs.length + 1) fun n => matchesAll pattern (part n) with
    ⟨n, hend, hextreme⟩ | hnone
  · exact .inl ⟨n, hextreme, by rw [hend, Option.getD_some]⟩
  · refine .inr ⟨fun n hn => List.filter_eq_nil_iff.1 hnone n ?_, ?_⟩
    · exact List.mem_range.2 (Nat.lt_succ_of_le hn)
    · rw [hnone]
      cases greatest <;> exact hdefault

/-- **The shortest or the longest part at the start is left out** of those that a pattern fits, and
nothing if it fits none. -/
theorem dropStart_spec (longest : Bool) (pattern : List Fit) (cs : List Char) :
    (∃ n, IsExtreme longest (cs.length + 1) (fun n => Accepts pattern (cs.take n)) n ∧
        dropStart longest pattern cs = cs.drop n) ∨
      (∀ n ≤ cs.length, ¬ Accepts pattern (cs.take n)) ∧ dropStart longest pattern cs = cs :=
  left_of_extreme longest pattern cs cs.take cs.drop List.drop_zero

/-- **So is the shortest or the longest part at the end.** The longest one starts first. -/
theorem dropEnd_spec (longest : Bool) (pattern : List Fit) (cs : List Char) :
    (∃ n, IsExtreme (!longest) (cs.length + 1) (fun n => Accepts pattern (cs.drop n)) n ∧
        dropEnd longest pattern cs = cs.take n) ∨
      (∀ n ≤ cs.length, ¬ Accepts pattern (cs.drop n)) ∧ dropEnd longest pattern cs = cs := by
  have hends : ∀ a b : Option Nat, (if longest then a else b) = if !longest then b else a := by
    cases longest <;> simp
  unfold dropEnd
  simp only [hends]
  exact left_of_extreme (!longest) pattern cs cs.drop cs.take List.take_length

end Trimming

end Pattern

end TrackSelect.Shell
