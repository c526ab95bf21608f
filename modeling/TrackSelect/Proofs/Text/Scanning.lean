import TrackSelect.Text.Blank
import TrackSelect.Text.DecimalDigit

/-!
# Where a scan stops

A reader goes over the characters of one class and stops at the first of another. What it has read
is known from two facts: all of the run is in the class, and what stands behind the run is not
(`takeWhile_run`, `dropWhile_run`). Trimming is such a scan for blanks, so it changes nothing where
no blank stands at the end (`trim_eq_self`).
-/

namespace TrackSelect.Text

/-! ## Runs -/

variable {α : Type} {p : α → Bool} {run rest : List α}

/-- A scan stops at once in front of another class. -/
theorem dropWhile_eq_self (h : ∀ c ∈ rest.head?, p c = false) : rest.dropWhile p = rest := by
  cases rest with
  | nil => rfl
  | cons c rest => exact List.dropWhile_cons_of_neg (by simp [h c rfl])

theorem takeWhile_eq_nil (h : ∀ c ∈ rest.head?, p c = false) : rest.takeWhile p = [] := by
  cases rest with
  | nil => rfl
  | cons c rest => exact List.takeWhile_cons_of_neg (by simp [h c rfl])

/-- A scan reads the whole run when what stands behind it is of another class. -/
theorem takeWhile_run (hrun : ∀ c ∈ run, p c = true) (hrest : ∀ c ∈ rest.head?, p c = false) :
    (run ++ rest).takeWhile p = run := by
  rw [List.takeWhile_append_of_pos hrun, takeWhile_eq_nil hrest, List.append_nil]

/-- A scan leaves what stands behind the run. -/
theorem dropWhile_run (hrun : ∀ c ∈ run, p c = true) (hrest : ∀ c ∈ rest.head?, p c = false) :
    (run ++ rest).dropWhile p = rest := by
  rw [List.dropWhile_append_of_pos hrun, dropWhile_eq_self hrest]

/-- Every text is a run of a class, and a rest that the run does not go on in. -/
theorem exists_run (p : α → Bool) (cs : List α) :
    ∃ run rest, run ++ rest = cs ∧ (∀ c ∈ run, p c = true) ∧ ∀ c ∈ rest.head?, p c = false := by
  induction cs with
  | nil => exact ⟨[], [], rfl, by simp, by simp⟩
  | cons c cs ih =>
    cases hc : p c with
    | false => exact ⟨[], c :: cs, rfl, by simp, by simp [hc]⟩
    | true =>
      obtain ⟨run, rest, rfl, hrun, hrest⟩ := ih
      exact ⟨c :: run, rest, rfl, by simpa [hc] using hrun, hrest⟩

/-! ## Blanks at the ends -/

theorem isBlank_eq_false_of_all {cs : List Char} (h : cs.all (!isBlank ·) = true) :
    ∀ c ∈ cs, isBlank c = false := by simpa using h

theorem trimStart_eq_self {cs : List Char} (h : ∀ c ∈ cs.head?, isBlank c = false) :
    trimStart cs = cs := dropWhile_eq_self h

theorem trimEnd_eq_self {cs : List Char} (h : ∀ c ∈ cs.getLast?, isBlank c = false) :
    trimEnd cs = cs := by
  rw [trimEnd, dropWhile_eq_self (by simpa using h), List.reverse_reverse]

theorem trim_eq_self {cs : List Char} (hfirst : ∀ c ∈ cs.head?, isBlank c = false)
    (hlast : ∀ c ∈ cs.getLast?, isBlank c = false) : trim cs = cs := by
  rw [trim, trimEnd_eq_self hlast, trimStart_eq_self hfirst]

/-- A blank more at the end is trimmed as well. -/
theorem trimEnd_append_blank (cs : List Char) {c : Char} (h : isBlank c = true) :
    trimEnd (cs ++ [c]) = trimEnd cs := by
  rw [trimEnd, List.reverse_append, List.reverse_singleton, List.singleton_append,
    List.dropWhile_cons_of_pos h, trimEnd]

/-- What is trimmed are blanks in front and behind. -/
theorem exists_trimmed (cs : List Char) :
    ∃ front behind, cs = front ++ (trim cs ++ behind) ∧
      ∀ c ∈ front ++ behind, isBlank c = true := by
  obtain ⟨behind, hcs, hbehind⟩ := trimEnd_append_blanks cs
  obtain ⟨front, rest, hend, hfront, hrest⟩ := exists_run isBlank (trimEnd cs)
  have htrim : trim cs = rest := by
    rw [trim, trimStart, ← hend]
    exact dropWhile_run hfront hrest
  refine ⟨front, behind, ?_, List.forall_mem_append.2 ⟨hfront, List.all_eq_true.1 hbehind⟩⟩
  rw [htrim, ← List.append_assoc, hend, ← hcs]

/-- Characters that are no blanks are not trimmed. -/
theorem mem_trim_iff {cs : List Char} {c : Char} (hc : isBlank c = false) :
    c ∈ trim cs ↔ c ∈ cs := by
  obtain ⟨front, behind, hcs, hblank⟩ := exists_trimmed cs
  have hcut : c ∉ front ++ behind := fun hmem => by simp [hblank c hmem] at hc
  have hmem : c ∈ cs ↔ c ∈ front ++ (trim cs ++ behind) := by rw [← hcs]
  simp only [List.mem_append, not_or] at hcut hmem
  simp [hmem, hcut]

/-! ## Digits -/

/-- A digit is no blank. -/
theorem isBlank_eq_false_of_isDigit {c : Char} (h : c.isDigit = true) : isBlank c = false := by
  have hbounds := toNat_of_isDigit h
  simp only [isBlank, Bool.or_eq_false_iff, Bool.and_eq_false_iff, decide_eq_false_iff_not,
    beq_eq_false_iff_ne]
  omega

/-- A digit is no other character. -/
theorem ne_of_isDigit {c d : Char} (hc : c.isDigit = true) (hd : d.isDigit = false) : c ≠ d := by
  rintro rfl
  rw [hc] at hd
  contradiction

end TrackSelect.Text
