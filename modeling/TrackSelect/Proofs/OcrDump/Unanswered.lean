import Mathlib.Data.Nat.Find
import TrackSelect.Proofs.OcrDump.Blocks

/-!
# Markers that lack their text

A dump is faulty when a marker that is not the last line has no text line behind it, and the fault
names the line that stands there instead. The reader meets the lines in three places: before the
first marker, as text lines and as lines that continue a text. In all of them it counts on, so the
number it names is that of the line in the whole dump.

* **`framesFrom_of_lacksText`**: behind answered lines the reader stops at the first marker that
  lacks its text, whatever comes later;
* **`isAnswered_iff`**: lines without such a marker are the answered ones, which all have frames;
* **`cues_eq_error_iff`**: so the fault of a dump is that of its first such marker.
-/

namespace TrackSelect.OcrDump

/-- The line at `place` is a marker, and `next`, the line behind it, is no text line. -/
structure LacksText (lines : List (List Char)) (place : Nat) (marker : Marker)
    (next : List Char) : Prop where
  marker_eq : lines[place]?.bind marker? = some marker
  next_eq : lines[place + 1]? = some next
  payload_eq : payload? next = none

/-- The marker at `place` lacks its text, and no marker before it does. -/
structure FirstLacksText (lines : List (List Char)) (place : Nat) (marker : Marker)
    (next : List Char) : Prop extends LacksText lines place marker next where
  first : ∀ earlier < place, ∀ marker next, ¬ LacksText lines earlier marker next

/-! ## Reading up to the marker -/

/-- The reader goes on behind a frame, with the number of the line it has come to. -/
theorem framesFrom_error_of_marker (lineNumber : Nat) {line first : List Char}
    {rest : List (List Char)} {fault : Fault} (hmarker : isMarker line = true)
    (hfirst : (payload? first).isSome)
    (hrest : framesFrom (lineNumber + 2 + (rest.takeWhile (!isMarker ·)).length)
      (rest.dropWhile (!isMarker ·)) = .error fault) :
    framesFrom lineNumber (line :: first :: rest) = .error fault := by
  obtain ⟨marker, hmarker⟩ := Option.isSome_iff_exists.1 hmarker
  obtain ⟨text, htext⟩ := Option.isSome_iff_exists.1 hfirst
  rw [framesFrom_block lineNumber hmarker htext, hrest]
  rfl

/-- Lines that end in a marker end in it from their first marker on as well. -/
theorem getLast?_dropWhile {lines : List (List Char)} {line : List Char}
    (hlast : lines.getLast? = some line) (hline : isMarker line = true) :
    (lines.dropWhile (!isMarker ·)).getLast? = some line := by
  obtain ⟨before, rfl⟩ := List.getLast?_eq_some_iff.1 hlast
  rw [List.dropWhile_append]
  split <;> simp [hline]

/-- A marker ends the lines that continue a text, so nothing behind it is among them. -/
theorem split_append {lines : List (List Char)} {line : List Char} (hmem : line ∈ lines)
    (hline : isMarker line = true) (rest : List (List Char)) :
    (lines ++ rest).takeWhile (!isMarker ·) = lines.takeWhile (!isMarker ·) ∧
      (lines ++ rest).dropWhile (!isMarker ·) = lines.dropWhile (!isMarker ·) ++ rest := by
  have hdrop : lines.dropWhile (!isMarker ·) ≠ [] := by
    intro hnil
    have hcalm := List.dropWhile_eq_nil_iff.1 hnil line hmem
    simp [hline] at hcalm
  have htake : (lines.takeWhile (!isMarker ·)).length ≠ lines.length := by
    intro hlength
    have hstart : lines.takeWhile (!isMarker ·) <+: lines := List.takeWhile_prefix _
    have hall := hstart.eq_of_length hlength
    have hcalm := List.takeWhile_eq_self_iff.1 hall line hmem
    simp [hline] at hcalm
  constructor
  · rw [List.takeWhile_append, if_neg htake]
  · rw [List.dropWhile_append, if_neg (by simpa using hdrop)]

/-- **The reader stops at a marker that lacks its text**: when the lines up to it are answered,
its fault names the line behind it, by its number. -/
theorem framesFrom_of_lacksText {line next : List Char} {marker : Marker}
    (behind : List (List Char)) (hmarker : marker? line = some marker)
    (hnext : payload? next = none) (upTo : List (List Char)) (h : IsAnswered upTo) :
    upTo.getLast? = some line → ∀ lineNumber,
      framesFrom lineNumber (upTo ++ next :: behind) =
        .error (missingText (lineNumber + upTo.length) marker.frame next) := by
  have hline : isMarker line = true := by simp [isMarker, hmarker]
  induction upTo, h using IsAnswered.induction with
  | nil => simp
  | skip other rest h hother ih =>
    intro hlast n
    -- the marker is behind the skipped line
    have hrest : rest.getLast? = some line := by
      cases rest with
      | nil => simp_all
      | cons => simpa using hlast
    rw [List.cons_append, framesFrom_cons_of_not n hother, ih hrest (n + 1), List.length_cons]
    congr 2
    omega
  | last other h hother =>
    intro hlast n
    have hsame : other = line := by simpa using hlast
    rw [hsame]
    exact framesFrom_lacks n hmarker hnext behind
  | block other first rest h hother hfirst ih =>
    intro hlast n
    obtain ⟨text, htext⟩ := Option.isSome_iff_exists.1 hfirst
    -- the marker is behind the text line, which is none
    have hrest : rest.getLast? = some line := by
      cases rest with
      | nil =>
        have hsame : first = line := by simpa using hlast
        rw [hsame] at htext
        rw [isMarker_eq_false_of_payload htext] at hline
        contradiction
      | cons => simpa using hlast
    obtain ⟨htake, hdrop⟩ :=
      split_append (List.mem_of_getLast? hrest) hline (next :: behind)
    have hlength := congrArg List.length
      (List.takeWhile_append_dropWhile (p := (!isMarker ·)) (l := rest))
    rw [List.length_append] at hlength
    rw [List.cons_append, List.cons_append]
    refine framesFrom_error_of_marker n hother hfirst ?_
    rw [htake, hdrop, ih (getLast?_dropWhile hrest hline)]
    congr 2
    simp only [List.length_cons]
    omega

/-! ## Answered lines by their places -/

/-- A marker lacks its text within the first lines when it and the next line are among them. -/
theorem lacksText_take_iff {lines : List (List Char)} {count place : Nat} {marker : Marker}
    {next : List Char} :
    LacksText (lines.take (count + 1)) place marker next ↔
      place < count ∧ LacksText lines place marker next := by
  constructor
  · rintro ⟨hmarker, hnext, hnone⟩
    obtain ⟨hplace, -⟩ := List.getElem?_eq_some_iff.1 hnext
    have hlt : place < count := by
      have := List.length_take_le (count + 1) lines
      omega
    rw [List.getElem?_take_of_lt (by omega)] at hmarker hnext
    exact ⟨hlt, hmarker, hnext, hnone⟩
  · rintro ⟨hlt, hmarker, hnext, hnone⟩
    rw [← List.getElem?_take_of_lt (i := place) (j := count + 1) (by omega)] at hmarker
    rw [← List.getElem?_take_of_lt (j := count + 1) (by omega)] at hnext
    exact ⟨hmarker, hnext, hnone⟩

/-- Lines are answered when no marker among them lacks its text. -/
theorem isAnswered_iff {lines : List (List Char)} :
    IsAnswered lines ↔ ∀ place marker next, ¬ LacksText lines place marker next := by
  rw [IsAnswered, List.isChain_iff_getElem]
  constructor
  · rintro h place marker next ⟨hmarker, hnext, hnone⟩
    obtain ⟨hplace, hnext⟩ := List.getElem?_eq_some_iff.1 hnext
    rw [List.getElem?_eq_getElem (by omega), Option.bind_some] at hmarker
    have htext := h place hplace (by simp [isMarker, hmarker])
    simp [hnext, hnone] at htext
  · intro h place hplace hmarker
    obtain ⟨marker, hmarker⟩ := Option.isSome_iff_exists.1 hmarker
    by_contra hnone
    have hat : lines[place]?.bind marker? = some marker := by
      rw [List.getElem?_eq_getElem (by omega), Option.bind_some, hmarker]
    exact h place marker lines[place + 1]
      ⟨hat, List.getElem?_eq_getElem hplace, by simpa using hnone⟩

/-- A marker is the first one that lacks its text when the lines up to it are answered. -/
theorem firstLacksText_iff {lines : List (List Char)} {place : Nat} {marker : Marker}
    {next : List Char} :
    FirstLacksText lines place marker next ↔
      LacksText lines place marker next ∧ IsAnswered (lines.take (place + 1)) := by
  rw [isAnswered_iff]
  constructor
  · rintro ⟨hlacks, hfirst⟩
    refine ⟨hlacks, ?_⟩
    intro earlier other behind hearlier
    obtain ⟨hlt, hearlier⟩ := lacksText_take_iff.1 hearlier
    exact hfirst earlier hlt other behind hearlier
  · rintro ⟨hlacks, hanswered⟩
    refine ⟨hlacks, ?_⟩
    intro earlier hlt other behind hearlier
    exact hanswered earlier other behind (lacksText_take_iff.2 ⟨hlt, hearlier⟩)

/-- Lines are answered, or there is a first marker among them that lacks its text. -/
theorem isAnswered_or_firstLacksText (lines : List (List Char)) :
    IsAnswered lines ∨ ∃ place marker next, FirstLacksText lines place marker next := by
  classical
  by_cases h : ∃ place marker next, LacksText lines place marker next
  · obtain ⟨marker, next, hlacks⟩ := Nat.find_spec h
    refine .inr ⟨Nat.find h, marker, next, hlacks, ?_⟩
    intro earlier hlt other behind hearlier
    exact Nat.find_min h hlt ⟨other, behind, hearlier⟩
  · exact .inl (isAnswered_iff.2 fun place marker next hlacks => h ⟨place, marker, next, hlacks⟩)

/-! ## The fault of a dump -/

/-- The fault of lines is that of the first marker that lacks its text. -/
theorem framesFrom_of_firstLacksText {lines : List (List Char)} {place : Nat} {marker : Marker}
    {next : List Char} (h : FirstLacksText lines place marker next) (lineNumber : Nat) :
    framesFrom lineNumber lines =
      .error (missingText (lineNumber + (place + 1)) marker.frame next) := by
  obtain ⟨line, hat, hline⟩ := Option.bind_eq_some_iff.1 h.marker_eq
  obtain ⟨hplace, hnext⟩ := List.getElem?_eq_some_iff.1 h.next_eq
  have hlast : (lines.take (place + 1)).getLast? = some line := by
    rw [List.take_add_one, hat]
    simp
  have hsplit : lines.take (place + 1) ++ next :: lines.drop (place + 2) = lines := by
    rw [← hnext, List.cons_getElem_drop_succ, List.take_append_drop]
  have hread := framesFrom_of_lacksText (lines.drop (place + 2)) hline h.payload_eq _
    (firstLacksText_iff.1 h).2 hlast lineNumber
  rwa [hsplit, List.length_take_of_le (by omega)] at hread

/-- An answered dump has cues. -/
theorem cues_eq_ok_of_isAnswered {text : String} (h : IsAnswered (Text.lines text.toList)) :
    cues text = .ok (cuesFrom none 0 ((blocks (Text.lines text.toList)).map Block.frame)) := by
  rw [cues, frames, framesFrom_of_isAnswered _ h 1]

/-- A dump with a marker that lacks its text is faulty. -/
theorem cues_of_firstLacksText {text : String} {place : Nat} {marker : Marker} {next : List Char}
    (h : FirstLacksText (Text.lines text.toList) place marker next) :
    cues text = .error (missingText (place + 2) marker.frame next) := by
  rw [cues, frames, framesFrom_of_firstLacksText h 1, Nat.add_comm 1]

/-- **The fault of a dump.** A dump is faulty if and only if some marker that is not its last line
lacks its text line. The fault is then a malformed frame, at the line behind the first such
marker, counted from one over all lines of the dump, and tells the frame and that line. -/
theorem cues_eq_error_iff (text : String) :
    ((∃ fault, cues text = .error fault) ↔
        ∃ place marker next, LacksText (Text.lines text.toList) place marker next) ∧
      ∀ fault, cues text = .error fault ↔
        ∃ place marker next, FirstLacksText (Text.lines text.toList) place marker next ∧
          fault = .malformedFrame (place + 2)
            ("expected 'lavfi.ocr.text=' line after frame " ++ toString marker.frame ++ ", found " ++
              Text.quoted (String.ofList next)) := by
  have hcases := isAnswered_or_firstLacksText (Text.lines text.toList)
  constructor
  · constructor
    · rintro ⟨fault, hfault⟩
      rcases hcases with hanswered | ⟨place, marker, next, hlacks⟩
      · rw [cues_eq_ok_of_isAnswered hanswered] at hfault
        contradiction
      · exact ⟨place, marker, next, hlacks.toLacksText⟩
    · rintro ⟨place, marker, next, hlacks⟩
      rcases hcases with hanswered | ⟨first, marker, next, hfirst⟩
      · exact absurd hlacks (isAnswered_iff.1 hanswered place marker next)
      · exact ⟨_, cues_of_firstLacksText hfirst⟩
  · intro fault
    constructor
    · intro hfault
      rcases hcases with hanswered | ⟨place, marker, next, hlacks⟩
      · rw [cues_eq_ok_of_isAnswered hanswered] at hfault
        contradiction
      · rw [cues_of_firstLacksText hlacks, Except.error.injEq] at hfault
        exact ⟨place, marker, next, hlacks, hfault.symm⟩
    · rintro ⟨place, marker, next, hlacks, rfl⟩
      exact cues_of_firstLacksText hlacks

/-- Behind a preamble and a whole frame, the text of a second frame is missing. -/
def cutShortDump : String :=
  "ffmpeg version n6.1\n\nframe:0 pts_time:1\nlavfi.ocr.text=A\nand more\n" ++
    "frame:7 pts_time:2\n[ocr] frame:8 pts_time:3\nlavfi.ocr.text=B\n"

/-- What stands in its place is line 7 of the dump. -/
theorem cues_eq_error_iff_cutShortDump :
    cues cutShortDump = .error (.malformedFrame 7
      "expected 'lavfi.ocr.text=' line after frame 7, found \"[ocr] frame:8 pts_time:3\"") := by
  have hlacks : LacksText (Text.lines cutShortDump.toList) 5 ⟨7, Binary64.read? "2".toList⟩
      "[ocr] frame:8 pts_time:3".toList :=
    ⟨by decide +kernel, by decide +kernel, by decide +kernel⟩
  have hanswered : IsAnswered ((Text.lines cutShortDump.toList).take 6) := by
    decide +kernel
  refine ((cues_eq_error_iff cutShortDump).2 _).2
    ⟨5, _, _, firstLacksText_iff.2 ⟨hlacks, hanswered⟩, ?_⟩
  decide +kernel

end TrackSelect.OcrDump
