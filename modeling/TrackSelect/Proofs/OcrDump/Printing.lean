import Mathlib.Data.List.Infix
import TrackSelect.Proofs.Binary64.Literal
import TrackSelect.Proofs.OcrDump.Unanswered
import TrackSelect.Proofs.Text.Lines
import TrackSelect.Proofs.Text.Numeral

/-!
# Dumps as they are printed

A dump is printed frame by frame (`PrintedFrame`): a marker line with a number, a stamp and a time,
a text line, and the lines that continue the text. What is printed is read back: the lines of a
frame are one block (`blocks_printedLines`), its marker line gives the number and the time that it
was printed with (`marker?_block`), and its text keeps all characters (`frame_block`). So the cues
of a printed dump are those between its frames (`cues_print`).

Nothing in a text can spoil this but a marker among the lines that continue it. Behind the key of a
text line anything may stand, and in a marker line the stamp ends at a blank, so that the time key
is first found where it was printed (`timeText?_append`).
-/

namespace TrackSelect.OcrDump

/-! ## Printing -/

/-- A line that is kept as it is: it has no line feed, and no blank at its end. -/
structure IsWhole (line : List Char) : Prop where
  feed_notMem : '\n' ∉ line
  isBlank_getLast? : ∀ c ∈ line.getLast?, Text.isBlank c = false

instance (line : List Char) : Decidable (IsWhole line) :=
  decidable_of_iff ('\n' ∉ line ∧ line.getLast?.all (!Text.isBlank ·) = true)
    ⟨fun h => ⟨h.1, by simpa [Option.all_eq_true] using h.2⟩,
      fun h => ⟨h.feed_notMem, by simpa [Option.all_eq_true] using h.isBlank_getLast?⟩⟩

/-- A frame that can be printed. -/
structure PrintedFrame where
  number : Nat
  number_lt : number < twoTo 64
  /-- What is printed as the time in units of the stream. It is not read. -/
  stamp : List Char
  isBlank_stamp : ∀ c ∈ stamp, Text.isBlank c = false
  timeKey_stamp : ¬ timeKey <:+: stamp
  /-- The time in seconds, if there is one. -/
  time : Option Binary64.Literal
  /-- The first line of the text. -/
  first : List Char
  /-- The lines that continue the text. -/
  more : List (List Char)
  isWhole : ∀ line ∈ first :: more, IsWhole line
  isMarker_more : ∀ line ∈ more, isMarker line = false

namespace PrintedFrame

/-- What is printed as the time. -/
def timeChars (frame : PrintedFrame) : List Char :=
  match frame.time with
  | some literal => literal.chars
  | none => "NOPTS".toList

/-- What stands behind the number in the marker line. -/
def stamps (frame : PrintedFrame) : List Char :=
  "    pts:".toList ++ (frame.stamp ++ ("    pts_time:".toList ++ frame.timeChars))

/-- The lines of the frame. -/
def block (frame : PrintedFrame) : Block where
  marker := "frame:".toList ++ (Text.digits frame.number ++ frame.stamps)
  first := textKey ++ frame.first
  more := frame.more

/-- The frame that is printed. -/
def frame (frame : PrintedFrame) : Frame where
  number := frame.number
  time := frame.time.map Binary64.Literal.value
  lines := (frame.first :: frame.more).map String.ofList

end PrintedFrame

/-- The lines of a dump. -/
def printedLines (frames : List PrintedFrame) : List (List Char) :=
  frames.flatMap fun frame => frame.block.lines

/-- A dump: its lines, with a line feed behind each. -/
def print (frames : List PrintedFrame) : String :=
  String.ofList ((printedLines frames).flatMap (· ++ ['\n']))

/-! ## Reading the time -/

/-- Where the time key does not stand, nothing is read. -/
theorem timeText?_cons {c : Char} {rest : List Char} (h : ¬ timeKey <+: c :: rest) :
    timeText? (c :: rest) = timeText? rest := by
  have hnone : timeKey.isPrefixOf? (c :: rest) = none := by
    rw [Option.eq_none_iff_forall_not_mem]
    intro behind hbehind
    exact h ⟨behind, List.append_eq_of_isPrefixOf?_eq_some hbehind⟩
  rw [timeText?, hnone]
  rfl

/-- The time key has no blank in it, so it does not go on across one. -/
theorem isBlank_eq_false_of_mem_timeKey : ∀ c ∈ timeKey, Text.isBlank c = false :=
  Text.isBlank_eq_false_of_all (by decide)

/-- **No time is found across a blank.** A text without the time key is passed over when a blank
stands behind it. -/
theorem timeText?_append {front : List Char} (h : ¬ timeKey <:+: front) {c : Char}
    (hc : Text.isBlank c = true) (rest : List Char) :
    timeText? (front ++ c :: rest) = timeText? (c :: rest) := by
  induction front with
  | nil => rfl
  | cons first front ih =>
    have hkey : ¬ timeKey <+: first :: (front ++ c :: rest) := by
      rintro ⟨behind, hbehind⟩
      rw [← List.cons_append, List.append_eq_append_iff] at hbehind
      rcases hbehind with ⟨more, hmore, -⟩ | ⟨more, hmore, hrest⟩
      -- the key ends within the text, or goes on across the blank
      · exact h (hmore ▸ (List.prefix_append _ _).isInfix)
      · cases more with
        | nil => exact h (by rw [hmore, List.append_nil])
        | cons d more =>
          obtain ⟨rfl, -⟩ := List.cons_eq_cons.1 hrest
          have hmem : c ∈ timeKey := by simp [hmore]
          rw [isBlank_eq_false_of_mem_timeKey c hmem] at hc
          contradiction
    rw [List.cons_append, timeText?_cons hkey]
    exact ih fun hinfix => h (List.infix_cons hinfix)

theorem timeKey_eq : timeKey = ['p', 't', 's', '_', 't', 'i', 'm', 'e', ':'] := rfl

theorem timeText?_cons_of_ne {c : Char} (h : c ≠ 'p') (rest : List Char) :
    timeText? (c :: rest) = timeText? rest := by
  refine timeText?_cons fun hkey => ?_
  rw [timeKey_eq, List.cons_prefix_cons] at hkey
  exact h hkey.1.symm

/-- A literal that nothing follows is a number. -/
theorem decimalAt?_chars (literal : Binary64.Literal) :
    decimalAt? literal.chars = some literal.chars := by
  have hwhole : ∀ c ∈ literal.whole, Text.isDecimalDigit c = true :=
    fun c hc => Text.isDecimalDigit_of_isDigit (literal.isDigit_whole c hc)
  have hfraction : ∀ c ∈ literal.fraction, Text.isDecimalDigit c = true :=
    fun c hc => Text.isDecimalDigit_of_isDigit (literal.isDigit_fraction c hc)
  have hstop : ∀ c ∈ literal.tail.head?, Text.isDecimalDigit c = false := by
    intro c hc
    rw [literal.head?_tail c hc]
    rfl
  have htake := Text.takeWhile_run hwhole hstop
  have hdrop := Text.dropWhile_run hwhole hstop
  rw [← Binary64.Literal.chars] at htake hdrop
  obtain ⟨c, rest, hchars, hc⟩ := literal.exists_chars_eq_cons
  -- a sign would be read as part of the number, but a literal starts with a digit
  have hsign : ∀ behind, literal.chars ≠ '-' :: behind := by
    rintro behind hminus
    obtain ⟨rfl, -⟩ := List.cons_eq_cons.1 (hchars.symm.trans hminus)
    contradiction
  unfold decimalAt?
  split
  next sign cs h =>
  split at h
  · next behind hminus => exact absurd hminus (hsign behind)
  · obtain ⟨rfl, rfl⟩ := Prod.mk.inj h
    simp only [htake, hdrop, if_neg literal.whole_ne_nil]
    rw [Binary64.Literal.chars, Binary64.Literal.tail]
    by_cases hnil : literal.fraction = []
    · simp [hnil]
    · simp [hnil, List.takeWhile_eq_self_iff.2 hfraction]

/-- A literal behind the key is the time. -/
theorem timeText?_timeKey (literal : Binary64.Literal) :
    timeText? (timeKey ++ literal.chars) = some literal.chars := by
  have hkey : timeKey.isPrefixOf? (timeKey ++ literal.chars) = some literal.chars :=
    List.isPrefixOf?_eq_some_iff_append_eq.2 rfl
  obtain ⟨c, rest, hchars, hc⟩ := literal.exists_chars_eq_cons
  have hblank : Text.trimStart literal.chars = literal.chars :=
    Text.trimStart_eq_self (by simpa [hchars] using Text.isBlank_eq_false_of_isDigit hc)
  have hcons : timeKey ++ literal.chars = 'p' :: ("ts_time:".toList ++ literal.chars) := rfl
  rw [hcons] at hkey ⊢
  rw [timeText?, hkey]
  simp only [Option.bind_some, hblank, decimalAt?_chars]

namespace PrintedFrame

/-- Behind the number stand two stamps, each with four blanks in front. -/
theorem stamps_eq (frame : PrintedFrame) :
    frame.stamps = ' ' :: ' ' :: ' ' :: ' ' :: (('p' :: 't' :: 's' :: ':' :: frame.stamp) ++
      ' ' :: ' ' :: ' ' :: ' ' :: (timeKey ++ frame.timeChars)) := rfl

/-- The time is found behind the stamp. -/
theorem timeText?_stamps (frame : PrintedFrame) :
    timeText? frame.stamps = frame.time.map Binary64.Literal.chars := by
  -- the stamp's own key starts like the time key, but a colon comes too early
  have hstamp : ¬ timeKey <:+: 'p' :: 't' :: 's' :: ':' :: frame.stamp := by
    have h := frame.timeKey_stamp
    rw [timeKey_eq] at h ⊢
    simp [List.infix_cons_iff, h]
  have hblank : ∀ rest, timeText? (' ' :: rest) = timeText? rest :=
    timeText?_cons_of_ne (by decide)
  rw [stamps_eq, hblank, hblank, hblank, hblank, timeText?_append hstamp (by decide), hblank,
    hblank, hblank, hblank, timeChars]
  cases frame.time with
  | none => rfl
  | some literal => exact timeText?_timeKey literal

/-- What stands in front of a number, and the number, are passed over. -/
theorem timeText?_marker (frame : PrintedFrame) :
    timeText? frame.block.marker = frame.time.map Binary64.Literal.chars := by
  have hfront : ¬ timeKey <:+: "frame:".toList ++ Text.digits frame.number := by
    -- nothing in front of the stamps has the first character of the key
    intro h
    have hmem : 'p' ∈ "frame:".toList ++ Text.digits frame.number := h.subset (by decide)
    rcases List.mem_append.1 hmem with hmem | hmem
    · exact absurd hmem (by decide)
    · exact absurd (Text.isDigit_of_mem_digits hmem) (by decide)
  have hsplit : frame.block.marker =
      ("frame:".toList ++ Text.digits frame.number) ++ frame.stamps :=
    (List.append_assoc _ _ _).symm
  rw [hsplit, ← timeText?_stamps]
  exact timeText?_append hfront (by decide) _

theorem time_marker (frame : PrintedFrame) :
    (timeText? frame.block.marker).bind Binary64.read? =
      frame.time.map Binary64.Literal.value := by
  rw [timeText?_marker]
  cases frame.time with
  | none => rfl
  | some literal => exact Binary64.read?_chars literal

/-- The number stands right behind the frame key. -/
theorem trimStart_number (frame : PrintedFrame) :
    Text.trimStart (Text.digits frame.number ++ frame.stamps) =
      Text.digits frame.number ++ frame.stamps := by
  obtain ⟨c, rest, hdigits⟩ := List.exists_cons_of_ne_nil (Text.digits_ne_nil frame.number)
  have hc : c.isDigit = true := Text.isDigit_of_mem_digits (n := frame.number) (by simp [hdigits])
  refine Text.trimStart_eq_self ?_
  simpa [hdigits] using Text.isBlank_eq_false_of_isDigit hc

/-- Blanks stand between the number and the stamp. -/
theorem trimStart_stamps (frame : PrintedFrame) :
    Text.trimStart frame.stamps = ('p' :: 't' :: 's' :: ':' :: frame.stamp) ++
      ' ' :: ' ' :: ' ' :: ' ' :: (timeKey ++ frame.timeChars) := rfl

/-- **A marker line is read back.** -/
theorem marker?_block (frame : PrintedFrame) :
    marker? frame.block.marker =
      some ⟨frame.number, frame.time.map Binary64.Literal.value⟩ := by
  have hundecorated : undecorated frame.block.marker = frame.block.marker := rfl
  have hkey : "frame:".toList.isPrefixOf? frame.block.marker =
      some (Text.digits frame.number ++ frame.stamps) :=
    List.isPrefixOf?_eq_some_iff_append_eq.2 rfl
  have hdigit : ∀ c ∈ Text.digits frame.number, Text.isDecimalDigit c = true :=
    fun c hc => Text.isDecimalDigit_of_isDigit (Text.isDigit_of_mem_digits hc)
  have hstop : ∀ c ∈ frame.stamps.head?, Text.isDecimalDigit c = false := by
    rw [stamps_eq, List.head?_cons]
    rintro c ⟨⟩
    rfl
  have hlength : (Text.trimStart frame.stamps).length < frame.stamps.length := by
    rw [trimStart_stamps, stamps_eq]
    simp only [List.length_cons]
    omega
  have hpts : "pts:".toList.isPrefixOf (Text.trimStart frame.stamps) = true := by
    rw [trimStart_stamps]
    rfl
  rw [marker?, hundecorated, hkey, Option.bind_eq_bind, Option.bind_some]
  simp only [trimStart_number, Text.takeWhile_run hdigit hstop, Text.dropWhile_run hdigit hstop,
    hpts, decide_eq_true hlength, Text.unsigned?_digits frame.number_lt, time_marker]
  rfl

@[simp] theorem isMarker_block (frame : PrintedFrame) : isMarker frame.block.marker = true := by
  rw [isMarker, marker?_block]
  rfl

/-- Behind the key of a text line anything may stand. -/
theorem payload?_block (frame : PrintedFrame) : payload? frame.block.first = some frame.first :=
  List.isPrefixOf?_eq_some_iff_append_eq.2 rfl

end PrintedFrame

/-! ## Whole lines -/

/-- Characters that are not blank make a whole line. -/
theorem IsWhole.of_isBlank {line : List Char} (h : ∀ c ∈ line, Text.isBlank c = false) :
    IsWhole line where
  feed_notMem hmem := absurd (h _ hmem) (by decide)
  isBlank_getLast? c hc := h c (List.mem_of_getLast? hc)

theorem IsWhole.append {front back : List Char} (hfront : IsWhole front) (hback : IsWhole back) :
    IsWhole (front ++ back) where
  feed_notMem hmem := (List.mem_append.1 hmem).elim hfront.feed_notMem hback.feed_notMem
  isBlank_getLast? c hc := by
    rw [List.getLast?_append, Option.mem_def, Option.or_eq_some_iff] at hc
    rcases hc with hc | ⟨-, hc⟩
    · exact hback.isBlank_getLast? c hc
    · exact hfront.isBlank_getLast? c hc

/-- A whole line does not end in a carriage return, which is a blank. -/
theorem IsWhole.dropReturn_eq {line : List Char} (h : IsWhole line) :
    Text.dropReturn line = line :=
  if_neg fun hlast => absurd (h.isBlank_getLast? _ hlast) (by decide)

theorem IsWhole.kept_eq {line : List Char} (h : IsWhole line) : kept line = String.ofList line := by
  rw [kept, Text.trimEnd_eq_self h.isBlank_getLast?]

namespace PrintedFrame

theorem isBlank_timeChars (frame : PrintedFrame) :
    ∀ c ∈ frame.timeChars, Text.isBlank c = false := by
  unfold timeChars
  cases frame.time with
  | none => exact Text.isBlank_eq_false_of_all (by decide)
  | some literal =>
    intro c hc
    rcases Binary64.Literal.isDigit_or_eq_of_mem_chars hc with hdigit | rfl
    · exact Text.isBlank_eq_false_of_isDigit hdigit
    · rfl

theorem isWhole_marker (frame : PrintedFrame) : IsWhole frame.block.marker := by
  have hframe : IsWhole "frame:".toList := by decide
  have hnumber : IsWhole (Text.digits frame.number) :=
    .of_isBlank fun c hc => Text.isBlank_eq_false_of_isDigit (Text.isDigit_of_mem_digits hc)
  have hpts : IsWhole "    pts:".toList := by decide
  have hstamp : IsWhole frame.stamp := .of_isBlank frame.isBlank_stamp
  have hkey : IsWhole "    pts_time:".toList := by decide
  have htime : IsWhole frame.timeChars := .of_isBlank frame.isBlank_timeChars
  exact hframe.append (hnumber.append (hpts.append (hstamp.append (hkey.append htime))))

/-- Every line of a frame is kept as it is. -/
theorem isWhole_lines (frame : PrintedFrame) : ∀ line ∈ frame.block.lines, IsWhole line := by
  intro line hline
  rcases List.mem_cons.1 hline with rfl | hline
  · exact frame.isWhole_marker
  rcases List.mem_cons.1 hline with rfl | hline
  · have hkey : IsWhole textKey := by decide
    exact hkey.append (frame.isWhole _ List.mem_cons_self)
  · exact frame.isWhole line (List.mem_cons_of_mem _ hline)

/-- **The block of a printed frame reads as the frame.** -/
theorem frame_block (frame : PrintedFrame) : frame.block.frame = frame.frame := by
  obtain ⟨hfirst, hlater⟩ := List.forall_mem_cons.1 frame.isWhole
  have hmore : frame.more.map kept = frame.more.map String.ofList :=
    List.map_congr_left fun line hline => (hlater line hline).kept_eq
  rw [Block.frame, marker?_block, payload?_block]
  simp only [Option.getD_some, Option.map_some, Option.bind_some, hfirst.kept_eq]
  rw [PrintedFrame.frame, List.map_cons, ← hmore]
  rfl

end PrintedFrame

/-! ## The whole dump -/

theorem printedLines_cons (frame : PrintedFrame) (frames : List PrintedFrame) :
    printedLines (frame :: frames) = frame.block.marker :: frame.block.first ::
      (frame.more ++ printedLines frames) := rfl

/-- Behind the lines of a frame stands a marker, or nothing. -/
theorem isMarker_head?_printedLines (frames : List PrintedFrame) :
    ∀ line ∈ (printedLines frames).head?, (!isMarker line) = false := by
  cases frames with
  | nil => simp [printedLines]
  | cons frame frames => simp [printedLines_cons]

/-- **The blocks of a printed dump are its frames.** -/
theorem blocks_printedLines (frames : List PrintedFrame) :
    blocks (printedLines frames) = frames.map PrintedFrame.block := by
  induction frames with
  | nil => rfl
  | cons frame frames ih =>
    have hmore : ∀ line ∈ frame.more, (!isMarker line) = true :=
      fun line hline => by simp [frame.isMarker_more line hline]
    have hstop := isMarker_head?_printedLines frames
    rw [printedLines_cons, blocks_of_marker frame.isMarker_block frame.payload?_block,
      Text.takeWhile_run hmore hstop, Text.dropWhile_run hmore hstop, ih]
    rfl

/-- Lines that are no markers ask for nothing. -/
theorem isAnswered_append {front rest : List (List Char)}
    (hfront : ∀ line ∈ front, isMarker line = false) (hrest : IsAnswered rest) :
    IsAnswered (front ++ rest) := by
  induction front with
  | nil => exact hrest
  | cons line front ih =>
    have hcalm := hfront line List.mem_cons_self
    have htail := ih fun other hother => hfront other (List.mem_cons_of_mem _ hother)
    exact List.isChain_cons.2 ⟨fun next _ hmarker => by simp [hcalm] at hmarker, htail⟩

/-- Every marker is printed with its text line. -/
theorem isAnswered_printedLines (frames : List PrintedFrame) :
    IsAnswered (printedLines frames) := by
  induction frames with
  | nil => exact .nil
  | cons frame frames ih =>
    have hcalm : ∀ line ∈ frame.block.first :: frame.more, isMarker line = false := by
      intro line hline
      rcases List.mem_cons.1 hline with rfl | hline
      · exact isMarker_eq_false_of_payload frame.payload?_block
      · exact frame.isMarker_more line hline
    -- only the marker asks for a text line behind it
    have hbehind := isAnswered_append hcalm ih
    rw [printedLines_cons]
    exact List.isChain_cons_cons.2 ⟨fun _ => by rw [frame.payload?_block]; rfl, hbehind⟩

/-- The lines of a printed dump are those that were printed. -/
theorem lines_print (frames : List PrintedFrame) :
    Text.lines (print frames).toList = printedLines frames := by
  have hwhole : ∀ line ∈ printedLines frames, IsWhole line := by
    intro line hline
    obtain ⟨frame, -, hline⟩ := List.mem_flatMap.1 hline
    exact frame.isWhole_lines line hline
  rw [print, String.toList_ofList,
    Text.lines_flatMap_feed fun line hline => (hwhole line hline).feed_notMem]
  exact (List.map_congr_left fun line hline => (hwhole line hline).dropReturn_eq).trans
    (List.map_id _)

/-- **A printed dump is read back.** It has cues, and they are those between its frames: one for
every frame with text that has a frame behind it, with all lines of the frame, from its own time to
that of the next frame. -/
theorem cues_print (frames : List PrintedFrame) :
    cues (print frames) = .ok (cuesBetween (frames.map PrintedFrame.frame)) := by
  have hanswered : IsAnswered (Text.lines (print frames).toList) := by
    rw [lines_print]
    exact isAnswered_printedLines frames
  have hframes : frames.map (Block.frame ∘ PrintedFrame.block) = frames.map PrintedFrame.frame :=
    List.map_congr_left fun frame _ => frame.frame_block
  rw [cues_eq_ok_of_isAnswered hanswered, cuesFrom_none, lines_print, blocks_printedLines,
    List.map_map, hframes]

/-- A frame whose lines look like other lines of a dump, one without text or time, and the last
one. -/
def filmFrames : List PrintedFrame := [
  { number := 7, number_lt := by decide
    stamp := "7007".toList
    isBlank_stamp := Text.isBlank_eq_false_of_all (by decide)
    timeKey_stamp := by decide
    time := some ⟨['7'], ['0', '0', '7'], by decide, List.all_eq_true.1 rfl, List.all_eq_true.1 rfl⟩
    first := " frame:8 pts:1".toList
    more := ["frame:7 of the film".toList, [], "[x] lavfi.ocr.text=12".toList]
    isWhole := by decide
    isMarker_more := by decide },
  { number := 8, number_lt := by decide
    stamp := "pts_time".toList
    isBlank_stamp := Text.isBlank_eq_false_of_all (by decide)
    timeKey_stamp := by decide
    time := none
    first := []
    more := [[]]
    isWhole := by decide
    isMarker_more := by decide },
  { number := 9, number_lt := by decide
    stamp := []
    isBlank_stamp := Text.isBlank_eq_false_of_all (by decide)
    timeKey_stamp := by decide
    time := some ⟨['9'], [], by decide, List.all_eq_true.1 rfl, List.all_eq_true.1 rfl⟩
    first := "End".toList
    more := []
    isWhole := by decide
    isMarker_more := by decide }]

/-- Lines that look like other lines of a dump stay text. -/
theorem cues_print_filmFrames : cues (print filmFrames) =
    .ok [⟨1, ⟨7007⟩, ⟨0⟩,
      [" frame:8 pts:1", "frame:7 of the film", "", "[x] lavfi.ocr.text=12"]⟩] := by
  rw [cues_print]
  decide +kernel

end TrackSelect.OcrDump
