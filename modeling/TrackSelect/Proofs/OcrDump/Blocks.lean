import Mathlib.Data.List.Chain
import Mathlib.Data.List.Infix
import Mathlib.Data.List.TakeWhile
import TrackSelect.Caption.OcrDump

/-!
# OCR dumps by their blocks

The reader of a dump goes through its lines once, with one line of lookahead, and the maker of
cues remembers the frame whose cue is open. This module says what both come to without either:

* **`blocks`**: at every marker line with a line behind it starts a block, which goes on to the
  next marker or to the end;
* **`cuesBetween`**: every frame with text that has a frame behind it is a cue, shown until then;
* **`flatMap_blocks`**: apart from the lines before the first marker and a marker that is the
  last line, every line stands in exactly one block;
* **`cues_of_isAnswered`**: when every marker has its text line, the cues of a dump are those
  between the frames of its blocks.
-/

namespace TrackSelect.OcrDump

/-! ## Blocks -/

/-- The lines of one frame. -/
structure Block where
  marker : List Char
  /-- The line right behind the marker. -/
  first : List Char
  /-- The lines behind that, up to the next marker. -/
  more : List (List Char)

namespace Block

/-- All lines of the block. -/
def lines (block : Block) : List (List Char) := block.marker :: block.first :: block.more

/-- What the marker line says of the frame, and its text: the payload of the text line, then the
lines that continue it. -/
def frame (block : Block) : Frame where
  number := ((marker? block.marker).map Marker.frame).getD 0
  time := (marker? block.marker).bind Marker.time
  lines := kept ((payload? block.first).getD []) :: block.more.map kept

end Block

/-- The block at the start of some lines. -/
def block? : List (List Char) → Option Block
  | line :: first :: rest =>
    if isMarker line then some ⟨line, first, rest.takeWhile (!isMarker ·)⟩ else none
  | _ => none

/-- The blocks that start at any of some lines. -/
def blocks (lines : List (List Char)) : List Block := lines.tails.filterMap block?

/-- A marker that is the last line; it starts no block. -/
def dangling (lines : List (List Char)) : List (List Char) := lines.getLast?.toList.filter isMarker

/-- Every marker line that has a line behind it has a text line there. -/
def IsAnswered (lines : List (List Char)) : Prop :=
  lines.IsChain fun line next => isMarker line → (payload? next).isSome

instance (lines : List (List Char)) : Decidable (IsAnswered lines) :=
  inferInstanceAs (Decidable (lines.IsChain _))

/-- The frames with text, each with the frame behind it. -/
def shown (frames : List Frame) : List (Frame × Frame) :=
  (frames.zip frames.tail).filter (·.1.hasText)

/-- The cue of a frame that is shown until another one. -/
def cueUntil (number : Nat) (frame next : Frame) : Cue :=
  ⟨number, frame.timestamp, next.timestamp, frame.lines⟩

/-- The cues of frames: one for every frame with text that has a frame behind it, from its own
moment to that of the next frame, numbered from one. -/
def cuesBetween (frames : List Frame) : List Cue :=
  (shown frames).mapIdx fun i (frame, next) => cueUntil (i + 1) frame next

/-! ## Lines that start no block -/

/-- A text line is no marker: what stands behind blanks and decoration cannot start with both
`frame:` and `lavfi.ocr.text=`. -/
theorem isMarker_eq_false_of_payload {line text : List Char} (h : payload? line = some text) :
    isMarker line = false := by
  have hkey : textKey ++ text = undecorated line := List.append_eq_of_isPrefixOf?_eq_some h
  have hframe : "frame:".toList.isPrefixOf? (undecorated line) = none := by
    rw [← hkey]
    rfl
  have hmarker : marker? line = none := by
    rw [marker?, hframe]
    rfl
  rw [isMarker, hmarker]
  rfl

@[simp] theorem blocks_nil : blocks [] = [] := rfl

@[simp] theorem blocks_singleton (line : List Char) : blocks [line] = [] := rfl

/-- A line that is no marker starts no block. -/
theorem blocks_cons_of_not {line : List Char} (h : isMarker line = false)
    (rest : List (List Char)) : blocks (line :: rest) = blocks rest := by
  have hnone : block? (line :: rest) = none := by
    cases rest with
    | nil => rfl
    | cons first rest => simp [block?, h]
  rw [blocks, List.tails_cons, List.filterMap_cons_none hnone, ← blocks]

/-- The blocks of some lines are those from the first marker on. -/
theorem blocks_dropWhile (lines : List (List Char)) :
    blocks (lines.dropWhile (!isMarker ·)) = blocks lines := by
  induction lines with
  | nil => rfl
  | cons line rest ih =>
    by_cases h : isMarker line
    · simp [h]
    · have hfalse : isMarker line = false := by simpa using h
      rw [blocks_cons_of_not hfalse, ← ih, List.dropWhile_cons_of_pos (by simp [hfalse])]

/-- A marker and its text line start a block, and the next one starts at the next marker. -/
theorem blocks_of_marker {line first text : List Char} {rest : List (List Char)}
    (hmarker : isMarker line = true) (htext : payload? first = some text) :
    blocks (line :: first :: rest) =
      ⟨line, first, rest.takeWhile (!isMarker ·)⟩ :: blocks (rest.dropWhile (!isMarker ·)) := by
  have hblock : block? (line :: first :: rest) =
      some ⟨line, first, rest.takeWhile (!isMarker ·)⟩ := by
    simp [block?, hmarker]
  rw [blocks, List.tails_cons, List.filterMap_cons_some hblock, ← blocks,
    blocks_cons_of_not (isMarker_eq_false_of_payload htext), blocks_dropWhile]

/-! ## Reading line by line -/

/-- The induction along the reader. It skips a line, ends at a marker that is the last line, fails
at a marker that lacks its text, or goes on behind the lines of a frame. -/
theorem reading_induction {motive : List (List Char) → Prop} (nil : motive [])
    (skip : ∀ line rest, isMarker line = false → motive rest → motive (line :: rest))
    (last : ∀ line marker, marker? line = some marker → motive [line])
    (lacks : ∀ line marker first rest, marker? line = some marker → payload? first = none →
      motive (line :: first :: rest))
    (block : ∀ line marker first text rest, marker? line = some marker →
      payload? first = some text → motive (rest.dropWhile (!isMarker ·)) →
      motive (line :: first :: rest)) :
    ∀ lines, motive lines
  | [] => nil
  | line :: rest => by
    cases hmarker : marker? line with
    | none =>
      exact skip line rest (by simp [isMarker, hmarker])
        (reading_induction nil skip last lacks block rest)
    | some marker =>
      cases rest with
      | nil => exact last line marker hmarker
      | cons first rest =>
        cases htext : payload? first with
        | none => exact lacks line marker first rest hmarker htext
        | some text =>
          exact block line marker first text rest hmarker htext
            (reading_induction nil skip last lacks block _)
termination_by lines => lines.length
decreasing_by
  · simp
  · have := (List.dropWhile_suffix (l := rest) (!isMarker ·)).length_le
    simp only [List.length_cons]
    omega

theorem framesFrom_nil (lineNumber : Nat) : framesFrom lineNumber [] = .ok [] := by
  rw [framesFrom.eq_def]

/-- The reader skips a line that is no marker. -/
theorem framesFrom_cons_of_not (lineNumber : Nat) {line : List Char} (h : isMarker line = false)
    (rest : List (List Char)) :
    framesFrom lineNumber (line :: rest) = framesFrom (lineNumber + 1) rest := by
  have hnone : marker? line = none := by simpa [isMarker] using h
  rw [framesFrom.eq_def]
  simp only [hnone]

theorem framesFrom_last (lineNumber : Nat) {line : List Char} {marker : Marker}
    (hmarker : marker? line = some marker) : framesFrom lineNumber [line] = .ok [] := by
  rw [framesFrom.eq_def]
  simp only [hmarker]

theorem framesFrom_lacks (lineNumber : Nat) {line first : List Char} {marker : Marker}
    (hmarker : marker? line = some marker) (htext : payload? first = none)
    (rest : List (List Char)) :
    framesFrom lineNumber (line :: first :: rest) =
      .error (missingText (lineNumber + 1) marker.frame first) := by
  rw [framesFrom.eq_def]
  simp only [hmarker, htext]

theorem framesFrom_block (lineNumber : Nat) {line first text : List Char} {marker : Marker}
    (hmarker : marker? line = some marker) (htext : payload? first = some text)
    (rest : List (List Char)) :
    framesFrom lineNumber (line :: first :: rest) =
      (framesFrom (lineNumber + 2 + (rest.takeWhile (!isMarker ·)).length)
        (rest.dropWhile (!isMarker ·))).map fun frames =>
          ⟨marker.frame, marker.time, kept text :: (rest.takeWhile (!isMarker ·)).map kept⟩ ::
            frames := by
  rw [framesFrom.eq_def]
  simp only [hmarker, htext]
  split
  · next hfault =>
    rw [hfault]
    rfl
  · next hframes =>
    rw [hframes]
    rfl

/-! ## Answered lines

Answered lines are built from four pieces: nothing, a line that is no marker, a marker as the last
line, and a marker with its text line. What follows is proved along these. -/

/-- A marker with a line behind it has its text there. -/
theorem IsAnswered.payload_isSome {line first : List Char} {rest : List (List Char)}
    (h : IsAnswered (line :: first :: rest)) (hmarker : isMarker line = true) :
    (payload? first).isSome := (List.isChain_cons_cons.1 h).1 hmarker

theorem IsAnswered.tail {line : List Char} {rest : List (List Char)}
    (h : IsAnswered (line :: rest)) : IsAnswered rest := List.IsChain.tail h

/-- From any later line on, answered lines are answered. -/
theorem IsAnswered.dropWhile {lines : List (List Char)} (h : IsAnswered lines)
    (p : List Char → Bool) : IsAnswered (lines.dropWhile p) :=
  List.IsChain.suffix h (List.dropWhile_suffix p)

/-- The induction over answered lines. Behind a text line it goes on at the next marker. -/
theorem IsAnswered.induction {motive : (lines : List (List Char)) → IsAnswered lines → Prop}
    (nil : ∀ h, motive [] h)
    (skip : ∀ line rest (h : IsAnswered (line :: rest)), isMarker line = false →
      motive rest h.tail → motive (line :: rest) h)
    (last : ∀ line h, isMarker line = true → motive [line] h)
    (block : ∀ line first rest (h : IsAnswered (line :: first :: rest)), isMarker line = true →
      (payload? first).isSome → motive (rest.dropWhile (!isMarker ·)) (h.tail.tail.dropWhile _) →
      motive (line :: first :: rest) h) :
    ∀ lines h, motive lines h := by
  intro lines
  induction lines using reading_induction with
  | nil => exact nil
  | skip line rest hline ih => exact fun h => skip line rest h hline (ih h.tail)
  | last line marker hmarker => exact fun h => last line h (by simp [isMarker, hmarker])
  | lacks line marker first rest hmarker htext =>
    intro h
    have hfirst := h.payload_isSome (by simp [isMarker, hmarker])
    simp [htext] at hfirst
  | block line marker first text rest hmarker htext ih =>
    intro h
    exact block line first rest h (by simp [isMarker, hmarker]) (by simp [htext])
      (ih (h.tail.tail.dropWhile _))

/-! ## Reading the blocks -/

/-- The reader makes a frame of the block at a marker, and goes on at the next marker. -/
theorem framesFrom_of_marker (lineNumber : Nat) {line first : List Char}
    {rest : List (List Char)} {frames : List Frame} (hmarker : isMarker line = true)
    (hfirst : (payload? first).isSome)
    (hrest : ∀ n, framesFrom n (rest.dropWhile (!isMarker ·)) = .ok frames) :
    framesFrom lineNumber (line :: first :: rest) =
      .ok (Block.frame ⟨line, first, rest.takeWhile (!isMarker ·)⟩ :: frames) := by
  obtain ⟨marker, hmarker⟩ := Option.isSome_iff_exists.1 hmarker
  obtain ⟨text, htext⟩ := Option.isSome_iff_exists.1 hfirst
  rw [framesFrom_block lineNumber hmarker htext, hrest]
  simp [Except.map, Block.frame, hmarker, htext]

/-- **The reader finds the blocks**, from whatever line number it starts. -/
theorem framesFrom_of_isAnswered (lines : List (List Char)) (h : IsAnswered lines) :
    ∀ lineNumber, framesFrom lineNumber lines = .ok ((blocks lines).map Block.frame) := by
  induction lines, h using IsAnswered.induction with
  | nil =>
    intro n
    exact framesFrom_nil n
  | skip line rest h hline ih =>
    intro n
    rw [framesFrom_cons_of_not n hline, ih (n + 1), blocks_cons_of_not hline]
  | last line h hline =>
    intro n
    obtain ⟨marker, hmarker⟩ := Option.isSome_iff_exists.1 hline
    exact framesFrom_last n hmarker
  | block line first rest h hline hfirst ih =>
    intro n
    obtain ⟨text, htext⟩ := Option.isSome_iff_exists.1 hfirst
    rw [framesFrom_of_marker n hline hfirst ih, blocks_of_marker hline htext, List.map_cons]

/-! ## Every line in one block -/

/-- The last line decides, whatever lines stand before it. -/
theorem dangling_append (lines : List (List Char)) {rest : List (List Char)} (h : rest ≠ []) :
    dangling (lines ++ rest) = dangling rest := by
  have hlast : (lines ++ rest).getLast? = rest.getLast? := List.getLast?_append_of_ne_nil lines h
  rw [dangling, hlast, dangling]

/-- Nothing dangles when no line is a marker. -/
theorem dangling_eq_nil {lines : List (List Char)} (h : ∀ line ∈ lines, isMarker line = false) :
    dangling lines = [] := by
  rw [dangling, List.filter_eq_nil_iff]
  intro line hline
  have hmem : line ∈ lines := List.mem_of_getLast? (Option.mem_toList.1 hline)
  simp [h line hmem]

/-- The lines of a block do not dangle, so that what dangles is decided behind it. -/
theorem dangling_of_block {line first : List Char} {rest : List (List Char)}
    (hfirst : isMarker first = false) :
    dangling (line :: first :: rest) = dangling (rest.dropWhile (!isMarker ·)) := by
  have hmore : ∀ l ∈ first :: rest.takeWhile (!isMarker ·), isMarker l = false := by
    intro l hl
    rcases List.mem_cons.1 hl with rfl | hl
    · exact hfirst
    · simpa using List.mem_takeWhile_imp hl
  have hsplit : line :: first :: rest =
      (line :: first :: rest.takeWhile (!isMarker ·)) ++ rest.dropWhile (!isMarker ·) := by
    simp [List.takeWhile_append_dropWhile]
  rw [hsplit]
  by_cases hnil : rest.dropWhile (!isMarker ·) = []
  · rw [hnil, List.append_nil]
    have hcons := dangling_append [line] (List.cons_ne_nil first (rest.takeWhile (!isMarker ·)))
    exact hcons.trans (dangling_eq_nil hmore)
  · exact dangling_append _ hnil

/-- **Every line stands in one block**, the lines before the first marker and a dangling marker
apart. -/
theorem flatMap_blocks (lines : List (List Char)) (h : IsAnswered lines) :
    lines.takeWhile (!isMarker ·) ++ (blocks lines).flatMap Block.lines ++ dangling lines =
      lines := by
  induction lines, h using IsAnswered.induction with
  | nil => rfl
  | skip line rest h hline ih =>
    have hdangling : dangling (line :: rest) = dangling rest := by
      cases rest with
      | nil => simp [dangling, hline]
      | cons next rest => exact dangling_append [line] (List.cons_ne_nil next rest)
    rw [List.takeWhile_cons_of_pos (by simp [hline]), blocks_cons_of_not hline, hdangling]
    simpa using ih
  | last line h hline => simp [dangling, hline]
  | block line first rest h hline hfirst ih =>
    obtain ⟨text, htext⟩ := Option.isSome_iff_exists.1 hfirst
    rw [blocks_of_marker hline htext, dangling_of_block (isMarker_eq_false_of_payload htext)]
    -- behind the block there is nothing, or a marker in front
    have hfront : (rest.dropWhile (!isMarker ·)).takeWhile (!isMarker ·) = [] :=
      List.takeWhile_eq_nil_iff.2 fun hl => List.dropWhile_get_zero_not _ _ hl
    rw [hfront, List.nil_append] at ih
    rw [List.takeWhile_cons_of_neg (by simp [hline]), List.flatMap_cons, List.nil_append,
      List.append_assoc, ih]
    simp [Block.lines, List.takeWhile_append_dropWhile]

/-! ## The cues of a dump -/

/-- A fault of the frames is a fault of the dump. -/
theorem cues_eq_map (text : String) : cues text = (frames text).map (cuesFrom none 0) := by
  unfold cues
  cases frames text <;> rfl

/-- A frame without text is not shown. -/
theorem shown_cons_of_not {frame : Frame} (h : frame.hasText = false) (rest : List Frame) :
    shown (frame :: rest) = shown rest := by
  cases rest with
  | nil => rfl
  | cons next rest => simp [shown, h]

/-- A frame with text is shown until the next one. -/
theorem shown_cons_cons {frame : Frame} (h : frame.hasText = true) (next : Frame)
    (rest : List Frame) :
    shown (frame :: next :: rest) = (frame, next) :: shown (next :: rest) := by
  simp [shown, h]

/-- **One pass makes the cues between neighbours.** The open cue is the frame in front of the
ones to come, so it is put back there; `made` cues have their numbers already. -/
theorem cuesFrom_eq (frames : List Frame) : ∀ (opened : Option Frame) (made : Nat),
    (∀ frame ∈ opened, frame.hasText) → cuesFrom opened made frames =
      (shown (opened.toList ++ frames)).mapIdx fun i (frame, next) =>
        cueUntil (made + i + 1) frame next := by
  induction frames with
  | nil =>
    intro opened made _
    cases opened <;> rfl
  | cons frame rest ih =>
    intro opened made hopened
    -- what the next frame finds open: this one if it has text, else nothing
    have hnext : ∀ f ∈ (if frame.hasText then some frame else none), f.hasText := by
      intro f hf
      by_cases h : frame.hasText
      · have hf : frame = f := by simpa [h] using hf
        exact hf ▸ h
      · simp [h] at hf
    have hshown : shown ((if frame.hasText then some frame else none).toList ++ rest) =
        shown (frame :: rest) := by
      by_cases h : frame.hasText
      · simp [h]
      · have hfalse : frame.hasText = false := by simpa using h
        simp [hfalse, shown_cons_of_not hfalse]
    cases opened with
    | none =>
      rw [cuesFrom]
      simp only []
      rw [ih _ made hnext, hshown]
      rfl
    | some first =>
      have hfirst : first.hasText = true := hopened first rfl
      rw [cuesFrom]
      simp only []
      rw [ih _ (made + 1) hnext, hshown, Option.toList_some, List.singleton_append,
        shown_cons_cons hfirst, List.mapIdx_cons]
      simp [cueUntil, Nat.add_assoc, Nat.add_comm 1]

/-- The cues of the frames of a dump. -/
theorem cuesFrom_none (frames : List Frame) : cuesFrom none 0 frames = cuesBetween frames := by
  rw [cuesFrom_eq frames none 0 (by simp), cuesBetween]
  simp

/-- **A dump's cues, by its blocks.** When every marker with a line behind it has its text line
there, the dump has cues: those between the frames of its blocks. Every line stands in exactly
one of these blocks, except for the lines before the first marker and a marker that is the last
line. -/
theorem cues_of_isAnswered (text : String) (h : IsAnswered (Text.lines text.toList)) :
    cues text = .ok (cuesBetween ((blocks (Text.lines text.toList)).map Block.frame)) ∧
      (Text.lines text.toList).takeWhile (!isMarker ·) ++
          (blocks (Text.lines text.toList)).flatMap Block.lines ++
          dangling (Text.lines text.toList) = Text.lines text.toList := by
  constructor
  · rw [cues, frames, framesFrom_of_isAnswered _ h 1]
    simp only [cuesFrom_none]
  · exact flatMap_blocks _ h

/-- A preamble, two frames with text back to back, one of them without a time and with a second
line, a frame without text, and a marker that ends the dump. -/
def mixedDump : String :=
  "log\nframe:0 pts_time:1\nlavfi.ocr.text=A \nframe:1 pts:x\nlavfi.ocr.text=B\nframe:7 c\n" ++
    "frame:2 pts_time:3\nlavfi.ocr.text=\nframe:3 pts:x"

theorem cues_mixedDump :
    IsAnswered (Text.lines mixedDump.toList) ∧
      cues mixedDump = .ok [⟨1, ⟨1000⟩, ⟨0⟩, ["A"]⟩, ⟨2, ⟨0⟩, ⟨3000⟩, ["B", "frame:7 c"]⟩] := by
  have h : IsAnswered (Text.lines mixedDump.toList) := by decide +kernel
  refine ⟨h, (cues_of_isAnswered mixedDump h).1.trans ?_⟩
  decide +kernel

end TrackSelect.OcrDump
