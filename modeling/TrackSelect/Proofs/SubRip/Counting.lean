import TrackSelect.Proofs.SubRip.Document
import TrackSelect.Proofs.SubRip.Headers

/-!
# The count of a document

A timing line is counted when both of its times have two digits for the hours, as the counter wants
them, that is, below one hundred hours (`startsLike_timingLine`). All other lines of a cue take part
in no header, if no line of text starts like a timing line (`headers_cueLines`). So the count of a
document is the number of cues of which both times are that low (`count_render`).
-/

namespace TrackSelect.SubRip

open Text

/-- Both times of a cue are below one hundred hours. -/
def isBelowHundredHours (cue : Cue) : Bool :=
  cue.start.millis < 360000000 && cue.stop.millis < 360000000

/-! ## Timing lines -/

/-- The form of one timestamp. -/
def clockForm : List Char := "00:00:00,000".toList

theorem timingForm_eq_append : timingForm = clockForm ++ (arrow ++ (clockForm ++ [])) := rfl

theorem clockForm_append (form : List Char) :
    clockForm ++ form = List.replicate 2 '0' ++ ':' :: (List.replicate 2 '0' ++
      ':' :: (List.replicate 2 '0' ++ ',' :: (List.replicate 3 '0' ++ form))) := rfl

/-- A character other than zero stands for itself in a form. -/
theorem startsLike_cons_self {c : Char} (hc : c ≠ '0') (form cs : List Char) :
    startsLike (c :: form) (c :: cs) = startsLike form cs := by
  simp [startsLike, hc]

/-- Zeros in a form stand for as many digits. -/
theorem startsLike_digits {digits : List Char} (h : ∀ c ∈ digits, isDecimalDigit c = true)
    (form cs : List Char) :
    startsLike (List.replicate digits.length '0' ++ form) (digits ++ cs) = startsLike form cs := by
  induction digits with
  | nil => rfl
  | cons c digits ih =>
    obtain ⟨hc, hdigits⟩ := List.forall_mem_cons.1 h
    rw [List.length_cons, List.replicate_succ, List.cons_append, List.cons_append, startsLike,
      if_pos rfl, hc, Bool.true_and, ih hdigits]

/-- A number with the digits of its width is like that many zeros. -/
theorem startsLike_padded {width n : Nat} (hwidth : 0 < width) (h : n < tenTo width)
    (form cs : List Char) :
    startsLike (List.replicate width '0' ++ form) (padded width n ++ cs) = startsLike form cs := by
  have hall : ∀ c ∈ padded width n, isDecimalDigit c = true :=
    fun c hc => isDecimalDigit_of_isDigit (isDigit_of_mem_padded hc)
  have hdigits := startsLike_digits hall form cs
  rwa [length_padded hwidth h] at hdigits

/-- The third of three digits or more is no colon. -/
theorem startsLike_of_long {digits : List Char} (h : ∀ c ∈ digits, c.isDigit = true)
    (hlength : 2 < digits.length) (form cs : List Char) :
    startsLike (clockForm ++ form) (digits ++ cs) = false := by
  match digits, hlength with
  | _ :: _ :: c :: digits, _ =>
    have hcolon : (':' == c) = false := by
      refine beq_false_of_ne (Ne.symm (ne_of_isDigit (h c (by simp)) rfl))
    rw [clockForm_append]
    simp [startsLike, List.replicate, hcolon]

/-- Below one hundred hours two digits are enough for them. -/
theorem hours_lt_iff (t : Timestamp) : t.hours < tenTo 2 ↔ t.millis < 360000000 := by
  have hbound : tenTo 2 = 100 := rfl
  rw [hbound, Timestamp.hours]
  omega

/-- **A timestamp is like the form when it is below one hundred hours.** -/
theorem startsLike_chars (t : Timestamp) (form cs : List Char) :
    startsLike (clockForm ++ form) (t.chars ++ cs) =
      (decide (t.millis < 360000000) && startsLike form cs) := by
  have hminutes : t.minutes < tenTo 2 := Nat.lt_trans t.minutes_lt (by decide)
  have hseconds : t.seconds < tenTo 2 := Nat.lt_trans t.seconds_lt (by decide)
  have hfraction : t.fraction < tenTo 3 := t.fraction_lt
  rw [Timestamp.chars_eq, Timestamp.clockChars]
  simp only [List.append_assoc, List.cons_append]
  by_cases h : t.hours < tenTo 2
  · have hbelow : t.millis < 360000000 := (hours_lt_iff t).1 h
    rw [clockForm_append, startsLike_padded (by decide) h, startsLike_cons_self (by decide),
      startsLike_padded (by decide) hminutes, startsLike_cons_self (by decide),
      startsLike_padded (by decide) hseconds, startsLike_cons_self (by decide),
      startsLike_padded (by decide) hfraction, decide_eq_true hbelow, Bool.true_and]
  · have hbelow : ¬ t.millis < 360000000 := fun hlow => h ((hours_lt_iff t).2 hlow)
    rw [decide_eq_false hbelow, Bool.false_and]
    exact startsLike_of_long (fun c hc => isDigit_of_mem_padded hc)
      (lt_length_padded (by decide) (Nat.not_lt.1 h)) form _

/-- A timing line is like its form when both times are below one hundred hours. -/
theorem startsLike_timingLine (cue : Cue) :
    startsLike timingForm (timingLine cue) = isBelowHundredHours cue := by
  have harrow : ∀ form cs, startsLike (arrow ++ form) (arrow ++ cs) = startsLike form cs := by
    intro form cs
    simp [arrow, startsLike_cons_self]
  have hstop := startsLike_chars cue.stop [] []
  rw [List.append_nil, List.append_nil] at hstop
  rw [timingForm_eq_append, timingLine, List.append_assoc, startsLike_chars, harrow,
    List.append_nil, hstop, isBelowHundredHours]
  simp [startsLike]

/-! ## Lines of a cue -/

/-- Texts that do not start like timing lines take part in no header, up to the blank line behind
them. -/
theorem headers_texts {texts : List (List Char)}
    (h : ∀ line ∈ texts, startsLike timingForm line = false) (line : List Char)
    (rest : List (List Char)) :
    headers (line :: (texts ++ [] :: rest)) = headers rest := by
  induction texts generalizing line with
  | nil =>
    have hblank : headers ([] :: rest) = headers rest := headers_cons_of_not rfl rest
    rw [List.nil_append, headers_cons_cons_of_not rfl, hblank]
  | cons text texts ih =>
    obtain ⟨htext, htexts⟩ := List.forall_mem_cons.1 h
    rw [List.cons_append, headers_cons_cons_of_not htext, ih htexts text]

/-- The number of a cue is a number line. -/
theorem isNumberLine_digits (n : Nat) : isNumberLine (digits n) = true := by
  have hdigits : ∀ c ∈ digits n, isDecimalDigit c = true :=
    fun c hc => isDecimalDigit_of_isDigit (isDigit_of_mem_digits hc)
  have hnone : ∀ c ∈ ([] : List Char).head?, isDecimalDigit c = false := by simp
  simpa [digits_ne_nil] using isNumberLine_append hdigits hnone

/-- **A cue is one header or none**, by its times. -/
theorem headers_cueLines {cue : Cue}
    (h : ∀ line ∈ cue.lines, startsLike timingForm line.toList = false)
    (rest : List (List Char)) :
    headers (cueLines cue ++ rest) =
      headers rest + if isBelowHundredHours cue then 1 else 0 := by
  have htexts : ∀ line ∈ textLines cue, startsLike timingForm line = false := by
    intro line hline
    obtain ⟨⟨text, htext, rfl⟩, -⟩ := mem_textLines.1 hline
    exact h text htext
  have hheader : isHeader (digits cue.sequence) (timingLine cue) = isBelowHundredHours cue := by
    rw [isHeader, isNumberLine_digits, startsLike_timingLine, Bool.true_and]
  rw [cueLines, List.append_assoc, List.cons_append, List.cons_append, List.singleton_append,
    headers_cons_cons, hheader, headers_texts htexts]

/-! ## The count -/

/-- Cue by cue, the headers of a document are those of the cues below one hundred hours. -/
theorem headers_flatMap {cues : List Cue}
    (h : ∀ cue ∈ cues, ∀ line ∈ cue.lines, startsLike timingForm line.toList = false) :
    headers (cues.flatMap cueLines ++ [[]]) = cues.countP isBelowHundredHours := by
  induction cues with
  | nil => rfl
  | cons cue cues ih =>
    obtain ⟨hcue, hcues⟩ := List.forall_mem_cons.1 h
    rw [List.flatMap_cons, List.append_assoc, headers_cueLines hcue, ih hcues, List.countP_cons]

/-- So it is with the count. -/
theorem count_eq_countP {cues : List Cue}
    (h : ∀ cue ∈ cues, ∀ line ∈ cue.lines,
      '\n' ∉ line.toList ∧ startsLike timingForm line.toList = false) :
    count (render cues) = cues.countP isBelowHundredHours := by
  have hwritable : ∀ cue ∈ cues, IsWritable cue :=
    fun cue hcue line hline => (h cue hcue line hline).1
  rw [count_eq_headers, render, String.toList_ofList, pieces_chars hwritable,
    headers_flatMap fun cue hcue line hline => (h cue hcue line hline).2]

/-- **The count of a document.** When no line of text holds a line feed or starts like a timing
line, the count is the number of cues of which both times are below one hundred hours, whatever
their numbers and texts. So it is the number of cues when all times are that low. -/
theorem count_render {cues : List Cue}
    (h : ∀ cue ∈ cues, ∀ line ∈ cue.lines,
      '\n' ∉ line.toList ∧ startsLike timingForm line.toList = false) :
    count (render cues) = cues.countP isBelowHundredHours ∧
      ((∀ cue ∈ cues, isBelowHundredHours cue) → count (render cues) = cues.length) := by
  refine ⟨count_eq_countP h, ?_⟩
  intro hlow
  rw [count_eq_countP h, List.countP_eq_length.2 hlow]

/-- A cue that ends at the last moment below one hundred hours, with texts that are numbers, a
number with a carriage return, a digit of another script and half a timing line. -/
def countedCue : Cue := ⟨5, ⟨0⟩, ⟨359999999⟩, ["12", "3\r", "", "٣", "00:00:01,000 --> 00:00"]⟩

/-- Behind it, one that ends too late and one that starts too late to be counted. -/
def lateCues : List Cue :=
  [countedCue, ⟨0, ⟨359999999⟩, ⟨360000000⟩, ["7"]⟩, ⟨9, ⟨360000000⟩, ⟨5⟩, []⟩]

theorem count_render_lateCues :
    (∀ cue ∈ lateCues, ∀ line ∈ cue.lines,
        '\n' ∉ line.toList ∧ startsLike timingForm line.toList = false) ∧
      count (render lateCues) = 1 ∧
      (∀ cue ∈ [countedCue], isBelowHundredHours cue) ∧ count (render [countedCue]) = 1 := by
  have htexts : ∀ cue ∈ lateCues, ∀ line ∈ cue.lines,
      '\n' ∉ line.toList ∧ startsLike timingForm line.toList = false := by
    decide +kernel
  have hfirst : ∀ cue ∈ [countedCue], ∀ line ∈ cue.lines,
      '\n' ∉ line.toList ∧ startsLike timingForm line.toList = false :=
    fun cue hcue => htexts cue (List.mem_of_mem_take (i := 1) hcue)
  have hlow : ∀ cue ∈ [countedCue], isBelowHundredHours cue := by decide
  exact ⟨htexts, (count_render htexts).1.trans (by decide), hlow, (count_render hfirst).2 hlow⟩

end TrackSelect.SubRip
