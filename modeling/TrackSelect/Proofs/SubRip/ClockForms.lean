import TrackSelect.Proofs.SubRip.Clock

/-!
# What is read as a timestamp

`HasForm` is the form of a timestamp: three numbers with colons between them, and behind a comma or
a point three characters that are a number as well. What a number is, the form leaves open. For the
reader it is all that `Text.Writes` one, a plus sign included (`read?_eq_some_iff`), and so
`+1:00:00.+50` is a timestamp to it, though none is written so. A text without plus signs is read
exactly when its numbers are plain runs of digits (`read?_accepts`).
-/

namespace TrackSelect.Timestamp

open Text

/-- The texts that make up a timestamp of numbers. The minutes and seconds are below sixty, and the
milliseconds are three characters. -/
inductive HasForm (IsNumber : List Char → Nat → Prop) : List Char → Timestamp → Prop where
  | clock {hours minutes seconds millis : List Char} {h m s ms : Nat} {mark : Char}
      (isHours : IsNumber hours h) (isMinutes : IsNumber minutes m) (isSeconds : IsNumber seconds s)
      (isMillis : IsNumber millis ms) (minutes_lt : m < 60) (seconds_lt : s < 60)
      (mark_eq : mark = ',' ∨ mark = '.') (length_millis : millis.length = 3) :
      HasForm IsNumber (hours ++ ':' :: (minutes ++ ':' :: (seconds ++ mark :: millis)))
        ⟨((h * 60 + m) * 60 + s) * 1000 + ms⟩

/-- The hours of a text, if a number is what stands in front of its first colon, are below a
bound. -/
def HoursBelow (bound : Nat) (cs : List Char) : Prop :=
  ∀ hours behind n, cs = hours ++ ':' :: behind → Writes hours n → n < bound

/-! ## Forms -/

theorem isMark_iff {c : Char} : isMark c = true ↔ c = ',' ∨ c = '.' := by
  rw [isMark, Bool.or_eq_true, decide_eq_true_eq, decide_eq_true_eq]

theorem ofClock?_eq_some_iff {h m s ms : Nat} {t : Timestamp} :
    ofClock? h m s ms = some t ↔
      (m < 60 ∧ s < 60) ∧ t = ⟨((h * 60 + m) * 60 + s) * 1000 + ms⟩ := by
  rw [ofClock?, Option.ite_none_right_eq_some, Bool.and_eq_true, decide_eq_true_eq,
    decide_eq_true_eq, Option.some.injEq, eq_comm]

/-- A number is written in characters that a timestamp is not cut at. -/
theorem uncut_of_writes {cs : List Char} {n : Nat} (h : Writes cs n) :
    ∀ c ∈ cs, c ≠ ':' ∧ isMark c = false := by
  cases h with
  | plain hne hdigits => exact fun c hc => uncut_of_isDigit (hdigits c hc)
  | signed hne hdigits =>
    rw [List.forall_mem_cons]
    exact ⟨⟨by decide, by decide⟩, fun c hc => uncut_of_isDigit (hdigits c hc)⟩

/-- What is a number in one sense may be one in another, as far as a text goes. -/
theorem HasForm.imp {P Q : List Char → Nat → Prop} {cs : List Char} {t : Timestamp}
    (h : HasForm P cs t) (himp : ∀ part ⊆ cs, ∀ n, P part n → Q part n) : HasForm Q cs t := by
  cases h with
  | clock isHours isMinutes isSeconds isMillis minutes_lt seconds_lt mark_eq length_millis =>
    refine .clock (himp _ ?_ _ isHours) (himp _ ?_ _ isMinutes) (himp _ ?_ _ isSeconds)
      (himp _ ?_ _ isMillis) minutes_lt seconds_lt mark_eq length_millis
    all_goals
      intro c hc
      simp [hc]

/-- Plain runs of digits are a way to write numbers. -/
theorem HasForm.signed {cs : List Char} {t : Timestamp} (h : HasForm IsNumeral cs t) :
    HasForm Writes cs t := h.imp fun _ _ _ hn => hn.writes

theorem HasForm.plain {cs : List Char} {t : Timestamp} (h : HasForm Writes cs t)
    (hplus : '+' ∉ cs) : HasForm IsNumeral cs t :=
  h.imp fun _ hpart _ hn => hn.isNumeral fun hmem => hplus (hpart hmem)

/-- In plain digits a timestamp has no sign. -/
theorem HasForm.plus_notMem {cs : List Char} {t : Timestamp} (h : HasForm IsNumeral cs t) :
    '+' ∉ cs := by
  have hnumeral : ∀ {part : List Char} {n : Nat}, IsNumeral part n → '+' ∉ part :=
    fun hpart hmem => absurd (hpart.2.1 _ hmem) (by decide)
  cases h with
  | clock isHours isMinutes isSeconds isMillis minutes_lt seconds_lt mark_eq length_millis =>
    rcases mark_eq with rfl | rfl <;>
      simp [hnumeral isHours, hnumeral isMinutes, hnumeral isSeconds, hnumeral isMillis]

/-! ## Reading -/

/-- The parts of a text stand for a timestamp when they are numbers of 64 bits, the minutes and
seconds below sixty, and the milliseconds are three characters. -/
theorem ofParts?_eq_some_iff {hours minutes seconds millis : List Char} {t : Timestamp} :
    ofParts? hours minutes seconds millis = some t ↔
      ∃ h m s ms, unsigned? (twoTo 64) hours = some h ∧ unsigned? (twoTo 64) minutes = some m ∧
        unsigned? (twoTo 64) seconds = some s ∧ unsigned? (twoTo 64) millis = some ms ∧
        millis.length = 3 ∧ ofClock? h m s ms = some t := by
  unfold ofParts?
  simp only [Option.bind_eq_bind, Option.bind_eq_some_iff, Option.ite_none_right_eq_some]
  constructor
  · rintro ⟨h, hh, m, hm, s, hs, hlength, ms, hms, hclock⟩
    exact ⟨h, m, s, ms, hh, hm, hs, hms, hlength, hclock⟩
  · rintro ⟨h, m, s, ms, hh, hm, hs, hms, hlength, hclock⟩
    exact ⟨h, hh, m, hm, s, hs, hlength, ms, hms, hclock⟩

/-- A text that is read is cut at a mark and, in front of it, at two colons. -/
theorem exists_parts_of_read? {cs : List Char} {t : Timestamp} (h : read? cs = some t) :
    ∃ hours minutes seconds mark millis,
      trim cs = hours ++ ':' :: (minutes ++ ':' :: (seconds ++ mark :: millis)) ∧
      isMark mark = true ∧ ofParts? hours minutes seconds millis = some t := by
  unfold read? at h
  simp only at h
  split at h
  · next mark millis hours minutes seconds hbehind hsplit =>
    -- the pieces of a cut are joined again by what they were cut at
    have hclock : [':'].intercalate (((trim cs).takeWhile (!isMark ·)).splitOn ':') =
        (trim cs).takeWhile (!isMark ·) := List.intercalate_splitOn ':'
    have hmark := List.head?_dropWhile_not (!isMark ·) (trim cs)
    have hcut := List.takeWhile_append_dropWhile (p := (!isMark ·)) (l := trim cs)
    rw [hsplit] at hclock
    rw [hbehind] at hmark hcut
    refine ⟨hours, minutes, seconds, mark, millis, ?_, by simpa using hmark, h⟩
    rw [← hcut, ← hclock]
    simp [List.intercalate]
  · cases h

/-- **What the reader reads** are timestamps of numbers that may have a plus sign, as long as the
hours are far from the largest number of 64 bits. -/
theorem read?_eq_some_iff {cs : List Char} {t : Timestamp} (h : HoursBelow (twoTo 40) (trim cs)) :
    read? cs = some t ↔ HasForm Writes (trim cs) t := by
  have h40 : twoTo 40 ≤ twoTo 64 := by decide
  constructor
  · intro hread
    obtain ⟨hours, minutes, seconds, mark, millis, hcut, hmark, hparts⟩ :=
      exists_parts_of_read? hread
    obtain ⟨h, m, s, ms, hh, hm, hs, hms, hlength, hclock⟩ := ofParts?_eq_some_iff.1 hparts
    obtain ⟨⟨hm60, hs60⟩, rfl⟩ := ofClock?_eq_some_iff.1 hclock
    rw [hcut]
    exact .clock (unsigned?_eq_some.1 hh).1 (unsigned?_eq_some.1 hm).1
      (unsigned?_eq_some.1 hs).1 (unsigned?_eq_some.1 hms).1 hm60 hs60
      (isMark_iff.1 hmark) hlength
  · intro hform
    generalize htrim : trim cs = text at h hform
    cases hform with
    | @clock hours minutes seconds millis n m s ms mark isHours isMinutes isSeconds isMillis
        minutes_lt seconds_lt mark_eq length_millis =>
      have hparts : ∀ c ∈ hours ++ minutes ++ seconds, c ≠ ':' ∧ isMark c = false := by
        simp only [List.forall_mem_append]
        exact ⟨⟨uncut_of_writes isHours, uncut_of_writes isMinutes⟩,
          uncut_of_writes isSeconds⟩
      rw [read?_eq_of_parts htrim hparts (isMark_iff.2 mark_eq), ofParts?_eq_some_iff]
      -- every number is one of 64 bits: the hours by the bound, the others by their form
      have hhours := h hours _ n rfl isHours
      have hmillis := isMillis.lt_tenTo
      rw [length_millis] at hmillis
      refine ⟨n, m, s, ms, unsigned?_eq_some.2 ⟨isHours, by omega⟩, ?_, ?_, ?_,
        length_millis, ofClock?_eq_some_iff.2 ⟨⟨minutes_lt, seconds_lt⟩, rfl⟩⟩
      · exact unsigned?_eq_some.2 ⟨isMinutes, Nat.lt_trans minutes_lt (by decide)⟩
      · exact unsigned?_eq_some.2 ⟨isSeconds, Nat.lt_trans seconds_lt (by decide)⟩
      · exact unsigned?_eq_some.2 ⟨isMillis, Nat.lt_trans hmillis (by decide)⟩

/-- What is read is a timestamp of 64 bits. -/
theorem HasForm.millis_lt {cs : List Char} {t : Timestamp} (h : HasForm Writes cs t)
    (hhours : HoursBelow (twoTo 40) cs) : t.millis < twoTo 64 := by
  cases h with
  | @clock hours minutes seconds millis n m s ms mark isHours isMinutes isSeconds isMillis
      minutes_lt seconds_lt mark_eq length_millis =>
    -- an hour has less than two to the 22 milliseconds, and there are less than two to the 40 hours
    have hn : n < 1099511627776 := hhours hours _ n rfl isHours
    have hms := isMillis.lt_tenTo
    rw [length_millis] at hms
    have hms : ms < 1000 := hms
    show ((n * 60 + m) * 60 + s) * 1000 + ms < 18446744073709551616
    omega

/-- **What is accepted as a timestamp.** A text is read when, after trimming, its hours, minutes,
seconds and milliseconds are numbers between two colons and a mark, and then it is the timestamp
that these make up, which 64 bits have room for. A number is a run of digits that may have a plus
sign in front of it. So the texts with plain runs of digits are the only ones that are read, but for
those that have the form of a timestamp with a plus sign in it. -/
theorem read?_accepts {cs : List Char} (h : HoursBelow (twoTo 40) (trim cs)) :
    (∀ t, read? cs = some t ↔ HasForm Writes (trim cs) t) ∧
    (∀ t, read? cs = some t → t.millis < twoTo 64) ∧
    ((∀ t, read? cs = some t ↔ HasForm IsNumeral (trim cs) t) ↔
      '+' ∉ cs ∨ ∀ t, ¬ HasForm Writes (trim cs) t) := by
  have hread : ∀ t, read? cs = some t ↔ HasForm Writes (trim cs) t :=
    fun t => read?_eq_some_iff h
  have htrim : '+' ∈ trim cs ↔ '+' ∈ cs := mem_trim_iff rfl
  refine ⟨hread, fun t ht => ((hread t).1 ht).millis_lt h, ?_⟩
  -- what is left is to tell the two forms apart, which a plus sign does, and only that
  simp only [hread]
  constructor
  · intro hplain
    by_cases hplus : '+' ∈ cs
    · exact .inr fun t ht => ((hplain t).1 ht).plus_notMem (htrim.2 hplus)
    · exact .inl hplus
  · rintro (hplus | hnone) t
    · exact ⟨fun ht => ht.plain fun hmem => hplus (htrim.1 hmem), HasForm.signed⟩
    · exact ⟨fun ht => absurd ht (hnone t), HasForm.signed⟩

/-- Hours of up to twelve characters are below the bound. -/
theorem hoursBelow_of_short {hours : List Char} (hcolon : ':' ∉ hours) (hlength : hours.length ≤ 12)
    (behind : List Char) : HoursBelow (twoTo 40) (hours ++ ':' :: behind) := by
  intro front rest n hcut hn
  have hfront : ':' ∉ front := fun hmem => (uncut_of_writes hn _ hmem).1 rfl
  -- both are what stands in front of the first colon
  have hsplit := congrArg (List.splitOn ':') hcut
  rw [List.splitOn_append_cons_self_of_not_mem hcolon,
    List.splitOn_append_cons_self_of_not_mem hfront] at hsplit
  obtain ⟨rfl, -⟩ := List.cons.inj hsplit
  calc n < tenTo hours.length := hn.lt_tenTo
    _ ≤ tenTo 12 := Nat.pow_le_pow_right (by decide) hlength
    _ ≤ twoTo 40 := by decide

/-- A timestamp of three digits for the hours and one for the seconds, with blanks around it. -/
def wideClock : List Char := "\t100:59:3.999 \u3000".toList

theorem read?_accepts_wideClock :
    HoursBelow (twoTo 40) (trim wideClock) ∧ read? wideClock = some ⟨363543999⟩ ∧
      HasForm IsNumeral (trim wideClock) ⟨363543999⟩ := by
  have htrim : trim wideClock = "100".toList ++ ':' :: "59:3.999".toList := by decide
  have hhours : HoursBelow (twoTo 40) (trim wideClock) := by
    rw [htrim]
    exact hoursBelow_of_short (by decide) (by decide) _
  have hread : read? wideClock = some ⟨363543999⟩ := by decide +kernel
  exact ⟨hhours, hread, ((read?_accepts hhours).2.2.2 (.inl (by decide)) _).1 hread⟩

/-- A timestamp with a plus sign in the place of a digit. -/
def signedClock : List Char := "00:00:01,+50".toList

/-- It is read, though its milliseconds are no three digits. -/
theorem not_read?_accepts_signedClock :
    HoursBelow (twoTo 40) (trim signedClock) ∧
      ¬ ∀ t, read? signedClock = some t ↔ HasForm IsNumeral (trim signedClock) t := by
  have htrim : trim signedClock = "00".toList ++ ':' :: "00:01,+50".toList := by decide
  refine ⟨?_, fun hplain => ?_⟩
  · rw [htrim]
    exact hoursBelow_of_short (by decide) (by decide) _
  · have hread : read? signedClock = some ⟨1050⟩ := by decide +kernel
    exact absurd (by decide : '+' ∈ trim signedClock) ((hplain _).1 hread).plus_notMem

end TrackSelect.Timestamp
