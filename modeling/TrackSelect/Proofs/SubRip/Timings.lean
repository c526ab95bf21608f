import Mathlib.Data.List.Infix
import TrackSelect.Proofs.SubRip.Document

/-!
# Timings survive rendering

A reader of timings takes every line of a document for a timing line that can be read as one. The
lines it gets are those of the cues, some of them without a carriage return at their end, and that
decides nothing: a blank behind the second timestamp is trimmed (`timing?_dropReturn`). Number lines
and blank lines have no arrow, and every timing line is read back (`timing?_timingLine`). So when no
line of text can be read as a timing line, the timings are those of the cues (`timings_render`).
-/

namespace TrackSelect.SubRip

/-! ## Splitting at a separator -/

/-- A text without the first character of the separator is not split. -/
theorem splitOnce?_of_notMem {c : Char} (separator : List Char) {cs : List Char} (h : c ∉ cs) :
    splitOnce? (c :: separator) cs = none := by
  induction cs with
  | nil => rfl
  | cons d cs ih =>
    obtain ⟨hd, hcs⟩ := List.ne_and_not_mem_of_not_mem_cons h
    have hstart : (c :: separator).isPrefixOf? (d :: cs) = none := by
      simp [List.isPrefixOf?, hd]
    rw [splitOnce?, hstart]
    simp only [ih hcs, Option.map_none]

/-- A text is split at the first separator, which is the only one to start where it does. -/
theorem splitOnce?_append {c : Char} (separator : List Char) {before : List Char} (h : c ∉ before)
    (behind : List Char) :
    splitOnce? (c :: separator) (before ++ ((c :: separator) ++ behind)) =
      some (before, behind) := by
  induction before with
  | nil =>
    have hstart : (c :: separator).isPrefixOf? ((c :: separator) ++ behind) = some behind :=
      List.isPrefixOf?_eq_some_iff_append_eq.2 rfl
    rw [List.nil_append, List.cons_append, splitOnce?, ← List.cons_append, hstart]
  | cons d before ih =>
    obtain ⟨hd, hbefore⟩ := List.ne_and_not_mem_of_not_mem_cons h
    have hstart : (c :: separator).isPrefixOf? (d :: (before ++ ((c :: separator) ++ behind))) =
        none := by
      simp [List.isPrefixOf?, hd]
    rw [List.cons_append, splitOnce?, hstart]
    simp only [ih hbefore, Option.map_some]

/-- A character that no separator has takes no part in one at the start of a text. -/
theorem isPrefixOf?_append_singleton {c : Char} {separator : List Char} (h : c ∉ separator)
    (cs : List Char) :
    separator.isPrefixOf? (cs ++ [c]) = (separator.isPrefixOf? cs).map (· ++ [c]) := by
  induction separator generalizing cs with
  | nil => rfl
  | cons s separator ih =>
    obtain ⟨hs, hseparator⟩ := List.ne_and_not_mem_of_not_mem_cons h
    cases cs with
    | nil => simp [List.isPrefixOf?, Ne.symm hs]
    | cons d cs =>
      by_cases hd : s = d
      · simpa [List.isPrefixOf?, hd] using ih hseparator cs
      · simp [List.isPrefixOf?, hd]

/-- Such a character at the end of a text stays behind the separator. -/
theorem splitOnce?_append_singleton {c s : Char} {separator : List Char} (h : c ∉ s :: separator)
    (cs : List Char) :
    splitOnce? (s :: separator) (cs ++ [c]) =
      (splitOnce? (s :: separator) cs).map fun (before, behind) => (before, behind ++ [c]) := by
  induction cs with
  | nil =>
    have hs : s ∉ [c] := by simpa using Ne.symm (List.ne_and_not_mem_of_not_mem_cons h).1
    exact splitOnce?_of_notMem separator hs
  | cons d cs ih =>
    have hstart := isPrefixOf?_append_singleton h (d :: cs)
    rw [List.cons_append] at hstart ⊢
    rw [splitOnce?, splitOnce?, hstart]
    cases hbehind : (s :: separator).isPrefixOf? (d :: cs) with
    | none =>
      simp only [Option.map_none, ih, Option.map_map]
      rfl
    | some behind => rfl

/-! ## Lines that are timings -/

/-- A blank behind a timestamp is not read. -/
theorem read?_append_return (cs : List Char) :
    Timestamp.read? (cs ++ ['\r']) = Timestamp.read? cs := by
  have htrim : Text.trim (cs ++ ['\r']) = Text.trim cs := by
    rw [Text.trim, Text.trimEnd_append_blank cs rfl, Text.trim]
  unfold Timestamp.read?
  rw [htrim]

/-- The arrow starts with a blank, which no timestamp has. -/
theorem arrow_eq : arrow = ' ' :: ['-', '-', '>', ' '] := rfl

/-- A carriage return at the end of a line does not decide whether it is a timing line. -/
theorem timing?_append_return (line : List Char) : timing? (line ++ ['\r']) = timing? line := by
  have hreturn : '\r' ∉ ' ' :: ['-', '-', '>', ' '] := by decide
  rw [timing?, timing?, arrow_eq, splitOnce?_append_singleton hreturn]
  cases splitOnce? (' ' :: ['-', '-', '>', ' ']) line with
  | none => rfl
  | some parts =>
    obtain ⟨before, behind⟩ := parts
    simp only [Option.map_some, Option.bind_eq_bind, Option.bind_some, read?_append_return]

theorem timing?_dropReturn (line : List Char) :
    timing? (Text.dropReturn line) = timing? line := by
  unfold Text.dropReturn
  split
  · next hlast =>
    obtain ⟨front, rfl⟩ := List.getLast?_eq_some_iff.1 hlast
    rw [List.dropLast_concat, timing?_append_return]
  · rfl

/-- A line without blanks is no timing line. -/
theorem timing?_of_notMem {line : List Char} (h : ' ' ∉ line) : timing? line = none := by
  rw [timing?, arrow_eq, splitOnce?_of_notMem _ h]
  rfl

/-- A timing line is read back. -/
theorem timing?_timingLine {cue : Cue} (hstart : cue.start.millis ≤ Timestamp.latest)
    (hstop : cue.stop.millis ≤ Timestamp.latest) :
    timing? (timingLine cue) = some (cue.start, cue.stop) := by
  have hblank : ' ' ∉ cue.start.chars :=
    cue.start.notMem_chars (by decide) (by decide) (by decide)
  rw [timing?, timingLine, List.append_assoc, arrow_eq, splitOnce?_append _ hblank]
  simp only [Option.bind_eq_bind, Option.bind_some, Timestamp.read?_chars hstart,
    Timestamp.read?_chars hstop]

/-! ## The timings of a document -/

/-- Among the lines of a cue only its timing line is one. -/
theorem filterMap_timing?_cueLines {cue : Cue} (hstart : cue.start.millis ≤ Timestamp.latest)
    (hstop : cue.stop.millis ≤ Timestamp.latest)
    (htext : ∀ line ∈ cue.lines, timing? line.toList = none) :
    (cueLines cue).filterMap timing? = [(cue.start, cue.stop)] := by
  have hnumber : timing? (Text.digits cue.sequence) = none :=
    timing?_of_notMem fun hmem => absurd (Text.isDigit_of_mem_digits hmem) (by decide)
  have htexts : (textLines cue).filterMap timing? = [] := by
    rw [List.filterMap_eq_nil_iff]
    intro line hline
    obtain ⟨⟨text, hmem, rfl⟩, -⟩ := mem_textLines.1 hline
    exact htext text hmem
  have hblank : timing? [] = none := rfl
  rw [cueLines, List.filterMap_append, List.filterMap_cons_none hnumber,
    List.filterMap_cons_some (timing?_timingLine hstart hstop), htexts,
    List.filterMap_cons_none hblank]
  rfl

/-- Cue by cue, the timing lines of a document are those of its cues. -/
theorem filterMap_timing?_flatMap {cues : List Cue}
    (h : ∀ cue ∈ cues, (cueLines cue).filterMap timing? = [(cue.start, cue.stop)]) :
    (cues.flatMap cueLines).filterMap timing? = cues.map fun cue => (cue.start, cue.stop) := by
  induction cues with
  | nil => rfl
  | cons cue cues ih =>
    have hcues := ih fun other hother => h other (List.mem_cons_of_mem _ hother)
    rw [List.flatMap_cons, List.filterMap_append, h cue List.mem_cons_self, hcues]
    rfl

/-- **Timings survive rendering.** Every timestamp of 64 bits is read back from its written form.
And the timings of a document are those of its cues, in order, whatever their numbers and texts,
when no line of text holds a line feed and none can be read as a timing line itself. -/
theorem timings_render :
    (∀ t : Timestamp, t.millis < twoTo 64 → Timestamp.read? t.text.toList = some t) ∧
      ∀ cues : List Cue,
        (∀ cue ∈ cues, cue.start.millis < twoTo 64 ∧ cue.stop.millis < twoTo 64) →
        (∀ cue ∈ cues, ∀ line ∈ cue.lines, '\n' ∉ line.toList ∧ timing? line.toList = none) →
        timings (render cues) = cues.map fun cue => (cue.start, cue.stop) := by
  constructor
  · intro t ht
    rw [Timestamp.text, String.toList_ofList, Timestamp.read?_chars (Nat.le_sub_one_of_lt ht)]
  · intro cues htimes htexts
    have hwritable : ∀ cue ∈ cues, IsWritable cue :=
      fun cue hcue line hline => (htexts cue hcue line hline).1
    have hread : timing? ∘ Text.dropReturn = timing? := funext timing?_dropReturn
    rw [timings, render, String.toList_ofList, lines_chars hwritable, List.filterMap_map, hread]
    refine filterMap_timing?_flatMap ?_
    intro cue hcue
    obtain ⟨hstart, hstop⟩ := htimes cue hcue
    exact filterMap_timing?_cueLines (Nat.le_sub_one_of_lt hstart) (Nat.le_sub_one_of_lt hstop)
      fun line hline => (htexts cue hcue line hline).2

/-- Two cues, from the first moment to the last and around the hundredth hour, with texts that hold
digits, arrows, half a timing line, a carriage return and blanks. -/
def roughCues : List Cue :=
  [⟨7, ⟨0⟩, ⟨18446744073709551615⟩, ["12", " \t", "a --> b\r", ""]⟩,
    ⟨0, ⟨359999999⟩, ⟨360000000⟩, ["00:00:01,000 --> ", "99:59:59,999"]⟩]

theorem timings_render_roughCues :
    ((∀ cue ∈ roughCues, cue.start.millis < twoTo 64 ∧ cue.stop.millis < twoTo 64) ∧
        ∀ cue ∈ roughCues, ∀ line ∈ cue.lines, '\n' ∉ line.toList ∧ timing? line.toList = none) ∧
      Timestamp.read? (Timestamp.text ⟨18446744073709551615⟩).toList =
        some ⟨18446744073709551615⟩ ∧
      timings (render roughCues) = [(⟨0⟩, ⟨18446744073709551615⟩), (⟨359999999⟩, ⟨360000000⟩)] := by
  have htimes : ∀ cue ∈ roughCues, cue.start.millis < twoTo 64 ∧ cue.stop.millis < twoTo 64 := by
    decide +kernel
  have htexts : ∀ cue ∈ roughCues, ∀ line ∈ cue.lines,
      '\n' ∉ line.toList ∧ timing? line.toList = none := by
    decide +kernel
  exact ⟨⟨htimes, htexts⟩, timings_render.1 _ (by decide +kernel),
    timings_render.2 roughCues htimes htexts⟩

end TrackSelect.SubRip
