import TrackSelect.Caption.Timestamp
import TrackSelect.Proofs.Text.Numeral

/-!
# The written form of a timestamp

A timestamp is written by its parts: hours, minutes, seconds and milliseconds, each padded, with
marks between them that are no digits. So the marks are where a reader looks for them
(`read?_eq_of_parts`), and the parts are read back (`read?_chars`), however many digits the hours
have.
-/

namespace TrackSelect.Timestamp

open Text

/-! ## Parts -/

/-- The whole hours. -/
def hours (t : Timestamp) : Nat := t.millis / 3600000

/-- The whole minutes behind the hours. -/
def minutes (t : Timestamp) : Nat := t.millis / 60000 % 60

/-- The whole seconds behind the minutes. -/
def seconds (t : Timestamp) : Nat := t.millis / 1000 % 60

/-- The milliseconds behind the seconds. -/
def fraction (t : Timestamp) : Nat := t.millis % 1000

theorem minutes_lt (t : Timestamp) : t.minutes < 60 := Nat.mod_lt _ (by decide)

theorem seconds_lt (t : Timestamp) : t.seconds < 60 := Nat.mod_lt _ (by decide)

theorem fraction_lt (t : Timestamp) : t.fraction < 1000 := Nat.mod_lt _ (by decide)

/-- The hours, minutes and seconds, as they are written. -/
def clockChars (t : Timestamp) : List Char :=
  padded 2 t.hours ++ ':' :: (padded 2 t.minutes ++ ':' :: padded 2 t.seconds)

/-- A timestamp is written by its parts. -/
theorem chars_eq (t : Timestamp) : t.chars = t.clockChars ++ ',' :: padded 3 t.fraction := by
  have hhours : t.millis / 1000 / 60 / 60 = t.hours := by
    unfold hours
    omega
  have hminutes : t.millis / 1000 / 60 % 60 = t.minutes := by
    unfold minutes
    omega
  simp only [chars, hhours, hminutes, clockChars, seconds, fraction, List.append_assoc,
    List.cons_append]

/-- The parts make up the timestamp. -/
theorem ofClock?_parts (t : Timestamp) :
    ofClock? t.hours t.minutes t.seconds t.fraction = some t := by
  have hmillis : ((t.hours * 60 + t.minutes) * 60 + t.seconds) * 1000 + t.fraction = t.millis := by
    unfold hours minutes seconds fraction
    omega
  simp [ofClock?, minutes_lt, seconds_lt, hmillis]

/-! ## Characters -/

/-- A timestamp is not cut at a digit. -/
theorem uncut_of_isDigit {c : Char} (h : c.isDigit = true) : c ≠ ':' ∧ isMark c = false := by
  have hmark : c ≠ ',' ∧ c ≠ '.' := ⟨ne_of_isDigit h rfl, ne_of_isDigit h rfl⟩
  exact ⟨ne_of_isDigit h rfl, by simp [isMark, hmark]⟩

/-- The hours, minutes and seconds are digits with colons between them. -/
theorem mem_clockChars {t : Timestamp} {c : Char} (h : c ∈ t.clockChars) :
    c.isDigit = true ∨ c = ':' := by
  simp only [clockChars, List.mem_append, List.mem_cons] at h
  rcases h with h | h | h | h | h
  · exact .inl (isDigit_of_mem_padded h)
  · exact .inr h
  · exact .inl (isDigit_of_mem_padded h)
  · exact .inr h
  · exact .inl (isDigit_of_mem_padded h)

/-- A timestamp is written in digits, colons and a comma. -/
theorem mem_chars {t : Timestamp} {c : Char} (h : c ∈ t.chars) :
    c.isDigit = true ∨ c = ':' ∨ c = ',' := by
  rw [chars_eq, List.mem_append, List.mem_cons] at h
  rcases h with h | h | h
  · exact (mem_clockChars h).imp_right .inl
  · exact .inr (.inr h)
  · exact .inl (isDigit_of_mem_padded h)

/-- Nothing else stands in a written timestamp. -/
theorem notMem_chars {c : Char} (t : Timestamp) (hdigit : c.isDigit = false) (hcolon : c ≠ ':')
    (hcomma : c ≠ ',') : c ∉ t.chars := by
  intro hmem
  rcases mem_chars hmem with h | h | h
  · exact ne_of_isDigit h hdigit rfl
  · exact hcolon h
  · exact hcomma h

/-- No blank is written. -/
theorem isBlank_of_mem_chars {t : Timestamp} {c : Char} (h : c ∈ t.chars) : isBlank c = false := by
  rcases mem_chars h with h | rfl | rfl
  · exact isBlank_eq_false_of_isDigit h
  · rfl
  · rfl

/-! ## Reading back -/

/-- The timestamp that the parts of a text stand for. -/
def ofParts? (hours minutes seconds millis : List Char) : Option Timestamp := do
  let hours ← unsigned? (twoTo 64) hours
  let minutes ← unsigned? (twoTo 64) minutes
  let seconds ← unsigned? (twoTo 64) seconds
  if millis.length = 3 then
    ofClock? hours minutes seconds (← unsigned? (twoTo 64) millis)
  else none

/-- A text that is cut at two colons and a mark is read by the parts between them. -/
theorem read?_eq_of_parts {cs hours minutes seconds millis : List Char} {mark : Char}
    (htrim : trim cs = hours ++ ':' :: (minutes ++ ':' :: (seconds ++ mark :: millis)))
    (hparts : ∀ c ∈ hours ++ minutes ++ seconds, c ≠ ':' ∧ isMark c = false)
    (hmark : isMark mark = true) :
    read? cs = ofParts? hours minutes seconds millis := by
  simp only [List.forall_mem_append] at hparts
  obtain ⟨⟨hhours, hminutes⟩, hseconds⟩ := hparts
  have hsplit : (hours ++ ':' :: (minutes ++ ':' :: seconds)).splitOn ':' =
      [hours, minutes, seconds] := by
    rw [List.splitOn_append_cons_self_of_not_mem fun hmem => (hhours _ hmem).1 rfl,
      List.splitOn_append_cons_self_of_not_mem fun hmem => (hminutes _ hmem).1 rfl,
      List.splitOn_eq_singleton fun hmem => (hseconds _ hmem).1 rfl]
  -- the mark is the first character that ends the clock
  have hclock : ∀ c ∈ hours ++ ':' :: (minutes ++ ':' :: seconds), (!isMark c) = true := by
    have hcolon : isMark ':' = false := rfl
    simp only [List.forall_mem_append, List.forall_mem_cons, hcolon, Bool.not_false, true_and]
    exact ⟨fun c hc => by simp [hhours c hc], fun c hc => by simp [hminutes c hc],
      fun c hc => by simp [hseconds c hc]⟩
  have hcut : trim cs = (hours ++ ':' :: (minutes ++ ':' :: seconds)) ++ mark :: millis := by
    simp only [htrim, List.append_assoc, List.cons_append]
  have hfirst : ∀ c ∈ (mark :: millis).head?, (!isMark c) = false := by simp [hmark]
  unfold read?
  simp only [hcut, takeWhile_run hclock hfirst, dropWhile_run hclock hfirst, hsplit, ofParts?]

/-- **A timestamp is read back from its written form.** -/
theorem read?_chars {t : Timestamp} (h : t.millis ≤ latest) : read? t.chars = some t := by
  have htrim : trim t.chars = t.chars :=
    trim_eq_self (fun c hc => isBlank_of_mem_chars (List.mem_of_mem_head? hc))
      fun c hc => isBlank_of_mem_chars (List.mem_of_getLast? hc)
  have hhours : t.hours < twoTo 64 := by
    have hpos := twoTo_pos 64
    unfold latest at h
    exact Nat.lt_of_le_of_lt (Nat.div_le_self _ _) (by omega)
  have hminutes : t.minutes < twoTo 64 := Nat.lt_trans t.minutes_lt (by decide)
  have hseconds : t.seconds < twoTo 64 := Nat.lt_trans t.seconds_lt (by decide)
  have hfraction : t.fraction < twoTo 64 := Nat.lt_trans t.fraction_lt (by decide)
  have hlength : (padded 3 t.fraction).length = 3 := length_padded (by decide) t.fraction_lt
  have hparts : ∀ c ∈ padded 2 t.hours ++ padded 2 t.minutes ++ padded 2 t.seconds,
      c ≠ ':' ∧ isMark c = false := by
    simp only [List.forall_mem_append]
    exact ⟨⟨fun c hc => uncut_of_isDigit (isDigit_of_mem_padded hc),
      fun c hc => uncut_of_isDigit (isDigit_of_mem_padded hc)⟩,
      fun c hc => uncut_of_isDigit (isDigit_of_mem_padded hc)⟩
  simp only [chars_eq, clockChars, List.append_assoc, List.cons_append] at htrim ⊢
  rw [read?_eq_of_parts htrim hparts rfl]
  simp only [ofParts?, hlength, if_true, unsigned?_padded 2 hhours, unsigned?_padded 2 hminutes,
    unsigned?_padded 2 hseconds, unsigned?_padded 3 hfraction]
  exact t.ofClock?_parts

end TrackSelect.Timestamp
