import TrackSelect.Caption.SubRip
import TrackSelect.Proofs.Text.Lines
import TrackSelect.Proofs.Text.Scanning

/-!
# Cue headers by lines

The counter goes through a text character by character, and goes on behind a header in the middle of
its timing line. This module says what it comes to by lines: a header is a number line with a timing
line right behind it (`isHeader`), and the count is the number of neighbouring lines that are one
(`count_eq_headers`). No header is skipped with the characters of another, since a timing line is no
number line.
-/

namespace TrackSelect.SubRip

open Text

/-- A line of digits only, but for a carriage return at its end. -/
def isNumberLine (line : List Char) : Bool :=
  dropReturn line ≠ [] && (dropReturn line).all isDecimalDigit

/-- Whether two neighbouring lines are a cue header. -/
def isHeader (number timing : List Char) : Bool :=
  isNumberLine number && startsLike timingForm timing

/-- The number of neighbouring lines that are a cue header. -/
def headers (lines : List (List Char)) : Nat :=
  (lines.zip lines.tail).countP fun (number, timing) => isHeader number timing

/-! ## Headers among lines -/

@[simp] theorem headers_singleton (line : List Char) : headers [line] = 0 := rfl

theorem headers_cons_cons (number timing : List Char) (rest : List (List Char)) :
    headers (number :: timing :: rest) =
      headers (timing :: rest) + if isHeader number timing then 1 else 0 := by
  simp [headers, List.countP_cons]

/-- A line that is no number starts no header. -/
theorem headers_cons_of_not {line : List Char} (h : isNumberLine line = false)
    (rest : List (List Char)) : headers (line :: rest) = headers rest := by
  cases rest with
  | nil => rfl
  | cons timing rest => simp [headers_cons_cons, isHeader, h]

/-- A line that is not like a timing line ends no header. -/
theorem headers_cons_cons_of_not {timing : List Char} (h : startsLike timingForm timing = false)
    (number : List Char) (rest : List (List Char)) :
    headers (number :: timing :: rest) = headers (timing :: rest) := by
  simp [headers_cons_cons, isHeader, h]

/-! ## Number lines -/

/-- A carriage return is dropped from the end of a line, and nothing else. -/
theorem dropReturn_append_cons (number : List Char) {c : Char} {behind : List Char}
    (h : c :: behind ≠ ['\r']) : c ∈ dropReturn (number ++ c :: behind) := by
  unfold dropReturn
  split
  · next hlast =>
    have hbehind : behind ≠ [] := by
      rintro rfl
      have hc : c = '\r' := by simpa using hlast
      exact h (by rw [hc])
    rw [List.dropLast_append_of_ne_nil (List.cons_ne_nil c behind),
      List.dropLast_cons_of_ne_nil hbehind]
    simp
  · simp

/-- Digits are a number line when nothing or a carriage return stands behind them. -/
theorem isNumberLine_append {number behind : List Char}
    (hnumber : ∀ c ∈ number, isDecimalDigit c = true)
    (hbehind : ∀ c ∈ behind.head?, isDecimalDigit c = false) :
    isNumberLine (number ++ behind) = (number ≠ [] && (behind = [] || behind = ['\r'])) := by
  have hall : number.all isDecimalDigit = true := List.all_eq_true.2 hnumber
  by_cases hreturn : behind = ['\r']
  · have hdrop : dropReturn (number ++ ['\r']) = number := by simp [dropReturn]
    simp [isNumberLine, hreturn, hdrop, hall]
  cases behind with
  | nil =>
    have hdrop : dropReturn number = number := by
      refine if_neg fun hlast => ?_
      exact absurd (hnumber '\r' (List.mem_of_getLast? hlast)) (by decide)
    simp [isNumberLine, hdrop, hall]
  | cons c behind =>
    -- the character behind the digits stays, so not all that is left are digits
    have hmem := dropReturn_append_cons number hreturn
    have hnot : (dropReturn (number ++ c :: behind)).all isDecimalDigit = false := by
      rw [List.all_eq_false]
      exact ⟨c, hmem, by simp [hbehind c rfl]⟩
    simp [isNumberLine, hnot, hreturn]

/-- Two digits and a colon come first in a timing line. -/
theorem timingForm_eq : timingForm = '0' :: '0' :: ':' :: timingForm.drop 3 := rfl

/-- What is like a timing line is no number line: its third character is a colon. -/
theorem isNumberLine_of_startsLike {line : List Char} (h : startsLike timingForm line = true) :
    isNumberLine line = false := by
  rw [timingForm_eq] at h
  match line, h with
  | [], h => simp only [startsLike, Bool.false_eq_true] at h
  | [_], h => simp only [startsLike, Bool.and_false, Bool.false_eq_true] at h
  | [_, _], h => simp only [startsLike, Bool.and_false, Bool.false_eq_true] at h
  | a :: b :: c :: rest, h =>
    simp only [startsLike, Bool.and_eq_true, if_true] at h
    obtain ⟨ha, hb, hc, -⟩ := h
    rw [if_neg (by decide), beq_iff_eq] at hc
    subst hc
    have hnumber : ∀ d ∈ [a, b], isDecimalDigit d = true := by simp [ha, hb]
    have hstop : ∀ d ∈ (':' :: rest).head?, isDecimalDigit d = false := by
      rintro d ⟨⟩
      rfl
    exact (isNumberLine_append hnumber hstop).trans (by simp)

/-! ## Texts like a form -/

/-- A text is like a form when as many of its characters are as the form has. -/
theorem exists_of_startsLike {form cs : List Char} (h : startsLike form cs = true) :
    ∃ front behind, cs = front ++ behind ∧ front.length = form.length ∧
      startsLike form front = true := by
  induction form generalizing cs with
  | nil => exact ⟨[], cs, rfl, rfl, rfl⟩
  | cons f form ih =>
    cases cs with
    | nil => simp [startsLike] at h
    | cons c cs =>
      rw [startsLike, Bool.and_eq_true] at h
      obtain ⟨front, behind, rfl, hlength, hfront⟩ := ih h.2
      exact ⟨c :: front, behind, rfl, by simp [hlength], by simp [startsLike, h.1, hfront]⟩

/-- A line feed is like nothing in a form without one. -/
theorem startsLike_append_of_feed {form : List Char} (hform : '\n' ∉ form) (line : List Char)
    {rest : List Char} (hrest : ∀ c ∈ rest.head?, c = '\n') :
    startsLike form (line ++ rest) = startsLike form line := by
  induction form generalizing line with
  | nil => rfl
  | cons f form ih =>
    obtain ⟨hf, hform⟩ := List.ne_and_not_mem_of_not_mem_cons hform
    cases line with
    | cons c line => simp [startsLike, ih hform line]
    | nil =>
      cases rest with
      | nil => rfl
      | cons c rest =>
        have hc : c = '\n' := hrest c rfl
        have hfeed : (f == '\n') = false := beq_false_of_ne (Ne.symm hf)
        have hdigit : isDecimalDigit '\n' = false := rfl
        simp [startsLike, hc, hfeed, hdigit]

/-- No line feed stands in what is like a form without one. -/
theorem feed_notMem_of_startsLike {form cs : List Char} (hform : '\n' ∉ form)
    (h : startsLike form cs = true) (hlength : cs.length = form.length) : '\n' ∉ cs := by
  intro hmem
  obtain ⟨line, rest, rfl⟩ := List.append_of_mem hmem
  rw [startsLike_append_of_feed hform line (by simp)] at h
  -- the line in front of the feed would have to be as long as the form
  obtain ⟨front, behind, rfl, hfront, -⟩ := exists_of_startsLike h
  simp only [List.length_append, List.length_cons] at hlength
  omega

theorem feed_notMem_timingForm : '\n' ∉ timingForm := by decide

/-! ## Headers in a text -/

/-- A header starts at the start of a line when the line is a number and a timing line follows. It
ends where the form of the timing line does. -/
theorem headerLength?_line {line : List Char} (hline : '\n' ∉ line) (rest : List Char) :
    headerLength? (line ++ '\n' :: rest) =
      if isNumberLine line && startsLike timingForm rest then
        some (line.length + 1 + timingForm.length)
      else none := by
  obtain ⟨number, behind, rfl, hnumber, hbehind⟩ := exists_run isDecimalDigit line
  have hfeed : ∀ c ∈ (behind ++ '\n' :: rest).head?, isDecimalDigit c = false := by
    cases behind with
    | nil =>
      rintro c ⟨⟩
      rfl
    | cons => exact hbehind
  have htake : (number ++ (behind ++ '\n' :: rest)).takeWhile isDecimalDigit = number :=
    takeWhile_run hnumber hfeed
  have hdrop : (number ++ (behind ++ '\n' :: rest)).dropWhile isDecimalDigit =
      behind ++ '\n' :: rest := dropWhile_run hnumber hfeed
  rw [isNumberLine_append hnumber hbehind, List.append_assoc, headerLength?, htake, hdrop]
  by_cases hnil : number = []
  · simp [hnil]
  by_cases hreturn : behind = ['\r']
  · simp [hnil, hreturn]
  cases behind with
  | nil => simp [hnil]
  | cons c behind =>
    -- what stands behind the digits is no end of the line
    have hnone : (decide (number ≠ []) && (decide (c :: behind = []) ||
        decide (c :: behind = ['\r']))) = false := by simp [hreturn]
    rw [hnone, Bool.false_and, if_neg Bool.false_ne_true, if_neg hnil]
    split
    · next heq =>
      obtain ⟨rfl, htail⟩ := List.cons.inj heq
      cases behind with
      | nil => exact absurd rfl hreturn
      | cons d behind =>
        obtain ⟨rfl, -⟩ := List.cons.inj htail
        simp at hline
    · next heq =>
      obtain ⟨rfl, -⟩ := List.cons.inj heq
      simp at hline
    · rfl

/-- A line without a line feed behind it is no header. -/
theorem headerLength?_last {line : List Char} (hline : '\n' ∉ line) :
    headerLength? line = none := by
  obtain ⟨number, behind, rfl, hnumber, hbehind⟩ := exists_run isDecimalDigit line
  rw [headerLength?, takeWhile_run hnumber hbehind, dropWhile_run hnumber hbehind]
  by_cases hnil : number = []
  · simp [hnil]
  rw [if_neg hnil]
  split
  · simp at hline
  · simp at hline
  · rfl

/-! ## Counting -/

/-- Where no header starts, one character is left behind, and with it the start of the line. -/
theorem countFrom_cons_of_ne {c : Char} (hc : '\n' ≠ c) {lineStart : Bool} {rest : List Char}
    (h : lineStart = true → headerLength? (c :: rest) = none) (found : Nat) :
    countFrom 0 lineStart found (c :: rest) = countFrom 0 false found rest := by
  have hfeed : (c == '\n') = false := beq_false_of_ne (Ne.symm hc)
  cases lineStart with
  | false => simp [countFrom, hfeed]
  | true => simp [countFrom, hfeed, h rfl]

/-- In the middle of a line no header starts. -/
theorem countFrom_line {line : List Char} (hline : '\n' ∉ line) (found : Nat) (rest : List Char) :
    countFrom 0 false found (line ++ '\n' :: rest) = countFrom 0 true found rest := by
  induction line with
  | nil => rfl
  | cons c line ih =>
    obtain ⟨hc, hline⟩ := List.ne_and_not_mem_of_not_mem_cons hline
    rw [List.cons_append, countFrom_cons_of_ne hc (by simp), ih hline]

theorem countFrom_last {line : List Char} (hline : '\n' ∉ line) (found : Nat) :
    countFrom 0 false found line = found := by
  induction line with
  | nil => rfl
  | cons c line ih =>
    obtain ⟨hc, hline⟩ := List.ne_and_not_mem_of_not_mem_cons hline
    rw [countFrom_cons_of_ne hc (by simp), ih hline]

/-- The characters of a header are skipped, up to its last one. -/
theorem countFrom_skip (front : List Char) {last : Char} (hlast : last ≠ '\n') (lineStart : Bool)
    (found : Nat) (rest : List Char) :
    countFrom (front.length + 1) lineStart found (front ++ last :: rest) =
      countFrom 0 false found rest := by
  induction front generalizing lineStart with
  | nil =>
    have hfeed : (last == '\n') = false := beq_false_of_ne hlast
    simp [countFrom, hfeed]
  | cons c front ih =>
    rw [List.length_cons, List.cons_append, countFrom]
    exact ih (c == '\n')

/-- A line that starts no header is left behind. -/
theorem countFrom_of_headerLength?_eq_none {line rest : List Char} (hline : '\n' ∉ line)
    (h : headerLength? (line ++ '\n' :: rest) = none) (found : Nat) :
    countFrom 0 true found (line ++ '\n' :: rest) = countFrom 0 true found rest := by
  cases line with
  | nil =>
    rw [List.nil_append] at h ⊢
    simp [countFrom, h]
  | cons c line =>
    obtain ⟨hc, hline⟩ := List.ne_and_not_mem_of_not_mem_cons hline
    rw [List.cons_append] at h ⊢
    rw [countFrom_cons_of_ne hc (fun _ => h), countFrom_line hline]

/-- A header is counted, and left behind in its timing line. -/
theorem countFrom_of_header {line rest : List Char} (hline : '\n' ∉ line)
    (hnumber : isNumberLine line = true) (hrest : startsLike timingForm rest = true)
    (found : Nat) :
    countFrom 0 true found (line ++ '\n' :: rest) =
      countFrom 0 false (found + 1) (rest.drop timingForm.length) := by
  have hheader := headerLength?_line hline rest
  rw [hnumber, hrest, Bool.and_self, if_pos rfl] at hheader
  obtain ⟨front, behind, rfl, hlength, hfront⟩ := exists_of_startsLike hrest
  rw [List.drop_left' hlength]
  have hne : front ≠ [] := by
    rintro rfl
    contradiction
  -- the last character that is skipped is one of the timing line
  obtain ⟨middle, last, rfl⟩ : ∃ middle last, front = middle ++ [last] :=
    ⟨front.dropLast, front.getLast hne, (List.dropLast_concat_getLast hne).symm⟩
  have hlast : last ≠ '\n' := by
    rintro rfl
    exact feed_notMem_of_startsLike feed_notMem_timingForm hfront hlength (by simp)
  cases line with
  | nil => simp [isNumberLine, dropReturn] at hnumber
  | cons c line =>
    have hskip := countFrom_skip (line ++ '\n' :: middle) hlast (c == '\n') (found + 1) behind
    have hcount : (line ++ '\n' :: middle).length + 1 =
        (c :: line).length + 1 + timingForm.length - 1 := by
      simp only [List.length_append, List.length_cons, List.length_nil] at hlength ⊢
      omega
    rw [hcount] at hskip
    rw [List.cons_append] at hheader ⊢
    simp only [countFrom, if_true, hheader]
    simpa using hskip

/-! ## The count of a text -/

/-- **Counting goes on line by line.** At the start of a line all headers are to come; in the middle
of one, as behind a header, the line itself is in none of them. -/
theorem countFrom_lines (more : List (List Char)) (hmore : ∀ line ∈ more, '\n' ∉ line) :
    ∀ line, '\n' ∉ line → ∀ found,
      countFrom 0 true found (line ++ more.flatMap ('\n' :: ·)) = found + headers (line :: more) ∧
        countFrom 0 false found (line ++ more.flatMap ('\n' :: ·)) = found + headers more := by
  induction more with
  | nil =>
    intro line hline found
    rw [List.flatMap_nil, List.append_nil]
    refine ⟨?_, countFrom_last hline found⟩
    cases line with
    | nil => rfl
    | cons c rest =>
      obtain ⟨hc, hrest⟩ := List.ne_and_not_mem_of_not_mem_cons hline
      exact (countFrom_cons_of_ne hc (fun _ => headerLength?_last hline) found).trans
        (countFrom_last hrest found)
  | cons timing more ih =>
    intro line hline found
    obtain ⟨htiming, hlater⟩ := List.forall_mem_cons.1 hmore
    rw [List.flatMap_cons, List.cons_append]
    refine ⟨?_, (countFrom_line hline found _).trans (ih hlater timing htiming found).1⟩
    have hfeed : ∀ c ∈ (more.flatMap ('\n' :: ·)).head?, c = '\n' := by
      cases more <;> simp
    have hlike : startsLike timingForm (timing ++ more.flatMap ('\n' :: ·)) =
        startsLike timingForm timing :=
      startsLike_append_of_feed feed_notMem_timingForm timing hfeed
    rw [headers_cons_cons]
    cases hheader : isHeader line timing with
    | false =>
      have hnone : headerLength? (line ++ '\n' :: (timing ++ more.flatMap ('\n' :: ·))) = none := by
        rw [headerLength?_line hline, hlike, ← isHeader, hheader, if_neg Bool.false_ne_true]
      rw [countFrom_of_headerLength?_eq_none hline hnone, (ih hlater timing htiming found).1]
      rfl
    | true =>
      rw [isHeader, Bool.and_eq_true] at hheader
      obtain ⟨hnumber, hstart⟩ := hheader
      obtain ⟨front, behind, rfl, hlength, -⟩ := exists_of_startsLike hstart
      have hbehind : '\n' ∉ behind := fun hmem => htiming (List.mem_append_right _ hmem)
      rw [countFrom_of_header hline hnumber (hlike.trans hstart), List.append_assoc,
        List.drop_left' hlength, (ih hlater behind hbehind (found + 1)).2,
        headers_cons_of_not (isNumberLine_of_startsLike hstart), if_pos rfl]
      omega

/-- **Counting headers is counting neighbouring lines.** -/
theorem count_eq_headers (text : String) : count text = headers (pieces text.toList) := by
  obtain ⟨line, more, hpieces, htext, hcalm⟩ := exists_pieces text.toList
  obtain ⟨hline, hmore⟩ := List.forall_mem_cons.1 hcalm
  rw [count, hpieces, ← htext, (countFrom_lines more hmore line hline 0).1, Nat.zero_add]

end TrackSelect.SubRip
