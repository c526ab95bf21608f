import TrackSelect.Proofs.OcrDump.Printing

/-!
# The shape of cues

What can be said of the cues of a dump without looking into it. They are numbered from one, each of
them has something to show, and their lines are whole: no line feed, and no blank at the end
(`cues_shape`).

A cue starts at the frame with its text and stops at the next frame, whatever that is. When the
moments of the frames never go back, those of the cues do not either: the frames that are skipped in
between only leave gaps. So the cues follow one another without overlapping.
-/

namespace TrackSelect.OcrDump

/-! ## Lines that are kept -/

/-- What is kept of a line without a line feed is whole. -/
theorem isWhole_kept {line : List Char} (h : '\n' ∉ line) : IsWhole (kept line).toList := by
  rw [kept, String.toList_ofList]
  obtain ⟨blanks, hline, -⟩ := Text.trimEnd_append_blanks line
  constructor
  · intro hmem
    rw [hline] at h
    exact h (List.mem_append_left _ hmem)
  · intro c hc
    rw [Text.trimEnd, List.getLast?_reverse] at hc
    have hnot := List.head?_dropWhile_not Text.isBlank line.reverse
    rw [Option.mem_def.1 hc] at hnot
    exact hnot

/-- Blanks and decoration stand in front of the rest of a line. -/
theorem undecorated_suffix (line : List Char) : undecorated line <:+ line := by
  have htrim : ∀ cs : List Char, Text.trimStart cs <:+ cs := fun cs => List.dropWhile_suffix _
  unfold undecorated
  split
  · next rest hrest =>
    have hbracket : rest <:+ line := (List.suffix_cons '[' rest).trans (hrest ▸ htrim line)
    split
    · next behind hbehind =>
      have hclosed : behind <:+ rest :=
        (List.suffix_cons _ behind).trans (hbehind ▸ List.dropWhile_suffix _)
      exact (htrim behind).trans (hclosed.trans hbracket)
    · exact hrest ▸ htrim line
  · exact htrim line

/-- The text of a text line is the end of it. -/
theorem suffix_of_payload {line text : List Char} (h : payload? line = some text) :
    text <:+ line := by
  have hkey : textKey ++ text = undecorated line := List.append_eq_of_isPrefixOf?_eq_some h
  exact (hkey ▸ List.suffix_append textKey text).trans (undecorated_suffix line)

/-- The lines of a block are lines of the dump. -/
theorem mem_of_mem_blocks {lines : List (List Char)} {block : Block} (h : block ∈ blocks lines) :
    ∀ line ∈ block.lines, line ∈ lines := by
  obtain ⟨behind, hbehind, hblock⟩ := List.mem_filterMap.1 h
  have hsuffix : behind <:+ lines := (List.mem_tails _ _).1 hbehind
  cases behind with
  | nil => simp [block?] at hblock
  | cons marker behind =>
    cases behind with
    | nil => simp [block?] at hblock
    | cons first rest =>
      simp only [block?, Option.ite_none_right_eq_some, Option.some.injEq] at hblock
      obtain ⟨-, rfl⟩ := hblock
      intro line hline
      have hin : line ∈ marker :: first :: rest := by
        rcases List.mem_cons.1 hline with rfl | hline
        · exact List.mem_cons_self
        rcases List.mem_cons.1 hline with rfl | hline
        · exact List.mem_cons_of_mem _ List.mem_cons_self
        · have hrest := (List.takeWhile_prefix _).subset hline
          exact List.mem_cons_of_mem _ (List.mem_cons_of_mem _ hrest)
      exact hsuffix.subset hin

/-- The lines of a frame are whole when those of the dump hold no line feed. -/
theorem isWhole_frame {lines : List (List Char)} (hlines : ∀ line ∈ lines, '\n' ∉ line)
    {block : Block} (hblock : block ∈ blocks lines) :
    ∀ line ∈ block.frame.lines, IsWhole line.toList := by
  have hcalm : ∀ line ∈ block.lines, '\n' ∉ line := fun line hline =>
    hlines line (mem_of_mem_blocks hblock line hline)
  intro line hline
  rcases List.mem_cons.1 hline with rfl | hline
  · refine isWhole_kept fun hfeed => ?_
    cases hpayload : payload? block.first with
    | none =>
      rw [hpayload] at hfeed
      cases hfeed
    | some text =>
      rw [hpayload] at hfeed
      have hfirst : '\n' ∉ block.first := hcalm _ (List.mem_cons_of_mem _ List.mem_cons_self)
      exact hfirst ((suffix_of_payload hpayload).subset hfeed)
  · obtain ⟨more, hmore, rfl⟩ := List.mem_map.1 hline
    exact isWhole_kept (hcalm more (List.mem_cons_of_mem _ (List.mem_cons_of_mem _ hmore)))

/-! ## Frames that are shown -/

/-- Only frames with text are shown. -/
theorem hasText_of_mem_shown {frames : List Frame} {pair : Frame × Frame}
    (h : pair ∈ shown frames) : pair.1.hasText = true ∧ pair.1 ∈ frames := by
  obtain ⟨hpair, htext⟩ := List.mem_filter.1 h
  exact ⟨htext, (List.of_mem_zip hpair).1⟩

/-- Moments that never go back. -/
def IsForward (frames : List Frame) : Prop :=
  frames.Pairwise fun a b => a.timestamp.millis ≤ b.timestamp.millis

instance (frames : List Frame) : Decidable (IsForward frames) :=
  inferInstanceAs (Decidable (frames.Pairwise _))

/-- **What is shown does not go back**: a frame is shown until a moment that is not before its own,
and what is shown later starts no earlier than that. -/
theorem IsForward.times_shown {frames : List Frame} (h : IsForward frames) :
    (∀ pair ∈ shown frames, pair.1.timestamp.millis ≤ pair.2.timestamp.millis) ∧
      (shown frames).Pairwise fun a b => a.2.timestamp.millis ≤ b.1.timestamp.millis := by
  induction frames with
  | nil => exact ⟨nofun, .nil⟩
  | cons frame rest ih =>
    obtain ⟨hfirst, hrest⟩ := List.pairwise_cons.1 h
    have hbehind := ih hrest
    cases htext : frame.hasText with
    | false => rwa [shown_cons_of_not htext]
    | true =>
      cases rest with
      | nil => exact ⟨nofun, .nil⟩
      | cons next rest =>
        rw [shown_cons_cons htext]
        refine ⟨List.forall_mem_cons.2 ⟨hfirst next List.mem_cons_self, hbehind.1⟩,
          List.pairwise_cons.2 ⟨fun pair hpair => ?_, hbehind.2⟩⟩
        -- a frame that is shown later is the next one, or behind it
        rcases List.mem_cons.1 (hasText_of_mem_shown hpair).2 with hsame | hlater
        · rw [hsame]
        · exact (List.pairwise_cons.1 hrest).1 _ hlater

/-! ## The cues -/

/-- A cue is that of a frame that is shown. -/
theorem exists_shown_of_mem_cuesBetween {frames : List Frame} {cue : Cue}
    (h : cue ∈ cuesBetween frames) :
    ∃ pair ∈ shown frames, cue.start = pair.1.timestamp ∧ cue.stop = pair.2.timestamp ∧
      cue.lines = pair.1.lines := by
  obtain ⟨place, hplace, rfl⟩ := List.mem_mapIdx.1 h
  exact ⟨_, List.getElem_mem hplace, rfl, rfl, rfl⟩

/-- The times of the cues are those of the frames that are shown. -/
theorem times_cuesBetween (frames : List Frame) :
    (cuesBetween frames).map (fun cue => (cue.start, cue.stop)) =
      (shown frames).map fun pair => (pair.1.timestamp, pair.2.timestamp) := by
  refine List.ext_getElem? fun place => ?_
  rw [cuesBetween, List.getElem?_map, List.getElem?_mapIdx, List.getElem?_map, Option.map_map]
  rfl

/-- **Cues do not go back** when frames do not: a cue stops no earlier than it starts, and what is
shown later starts no earlier than that. -/
theorem IsForward.times_cues {frames : List Frame} (h : IsForward frames) :
    (∀ cue ∈ cuesBetween frames, cue.start.millis ≤ cue.stop.millis) ∧
      (cuesBetween frames).Pairwise fun a b => a.stop.millis ≤ b.start.millis := by
  obtain ⟨hle, hpairwise⟩ := h.times_shown
  constructor
  · intro cue hcue
    obtain ⟨pair, hpair, hstart, hstop, -⟩ := exists_shown_of_mem_cuesBetween hcue
    rw [hstart, hstop]
    exact hle pair hpair
  · have htimes : ((shown frames).map fun pair => (pair.1.timestamp, pair.2.timestamp)).Pairwise
        fun a b => a.2.millis ≤ b.1.millis := List.pairwise_map.2 hpairwise
    rw [← times_cuesBetween] at htimes
    exact List.pairwise_map.1 htimes

/-- A dump that has cues has an answer to every marker, and they are those between its frames. -/
theorem eq_cuesBetween_of_ok {text : String} {all : List Cue} (h : cues text = .ok all) :
    all = cuesBetween ((blocks (Text.lines text.toList)).map Block.frame) := by
  rcases isAnswered_or_firstLacksText (Text.lines text.toList) with
    hanswered | ⟨place, marker, next, hlacks⟩
  · rw [cues_eq_ok_of_isAnswered hanswered, cuesFrom_none] at h
    exact (Except.ok.inj h).symm
  · rw [cues_of_firstLacksText hlacks] at h
    cases h

/-- **The shape of cues.** The cues of a dump are numbered from one. Each has a line that is not
blank, and its lines are whole: they hold no line feed and do not end in a blank. If the moments of
the frames never go back, no cue stops before it starts, and none starts before those in front of it
have stopped; so no two cues overlap, and their starts never go back. -/
theorem cues_shape {text : String} {all : List Cue} (h : cues text = .ok all) :
    (∀ place cue, all[place]? = some cue → cue.sequence = place + 1) ∧
    (∀ cue ∈ all, (∃ line ∈ cue.lines, Text.allBlank line.toList = false) ∧
      ∀ line ∈ cue.lines, IsWhole line.toList) ∧
    (IsForward ((blocks (Text.lines text.toList)).map Block.frame) →
      (∀ cue ∈ all, cue.start.millis ≤ cue.stop.millis) ∧
      (all.Pairwise fun a b => a.stop.millis ≤ b.start.millis) ∧
      all.Pairwise fun a b => a.start.millis ≤ b.start.millis) := by
  obtain rfl := eq_cuesBetween_of_ok h
  refine ⟨fun place cue hcue => ?_, fun cue hcue => ?_, fun hforward => ?_⟩
  · rw [cuesBetween, List.getElem?_mapIdx, Option.map_eq_some_iff] at hcue
    obtain ⟨pair, -, rfl⟩ := hcue
    rfl
  · obtain ⟨pair, hpair, -, -, hlines⟩ := exists_shown_of_mem_cuesBetween hcue
    obtain ⟨htext, hframe⟩ := hasText_of_mem_shown hpair
    obtain ⟨block, hblock, hblockFrame⟩ := List.mem_map.1 hframe
    rw [hlines]
    constructor
    · obtain ⟨line, hline, hblank⟩ := List.any_eq_true.1 htext
      exact ⟨line, hline, by simpa using hblank⟩
    · rw [← hblockFrame]
      exact isWhole_frame (fun line hline => Text.feed_notMem_of_mem_lines hline) hblock
  · obtain ⟨hstop, hnext⟩ := hforward.times_cues
    refine ⟨hstop, hnext, hnext.imp_of_mem fun {a b} ha _ hab => ?_⟩
    exact (hstop a ha).trans hab

/-- A preamble, a frame without a time, a blank one, two with text and one at the end that stays
open. -/
def forwardDump : String :=
  "log\nframe:0 pts:x\nlavfi.ocr.text=A \n\nframe:1 pts_time:2\nlavfi.ocr.text= \n" ++
    "frame:2 pts_time:2\nlavfi.ocr.text=\nB\nframe:3 pts_time:3.5\n[x] lavfi.ocr.text=C"

/-- The cues meet neither the blank frame nor one another. -/
theorem cues_shape_forwardDump :
    IsForward ((blocks (Text.lines forwardDump.toList)).map Block.frame) ∧
    ∃ all, cues forwardDump = .ok all ∧
      all = [⟨1, ⟨0⟩, ⟨2000⟩, ["A", ""]⟩, ⟨2, ⟨2000⟩, ⟨3500⟩, ["", "B"]⟩] ∧
      (∀ cue ∈ all, ∀ line ∈ cue.lines, IsWhole line.toList) ∧
      (∀ cue ∈ all, cue.start.millis ≤ cue.stop.millis) ∧
      all.Pairwise fun a b => a.stop.millis ≤ b.start.millis := by
  have hforward : IsForward ((blocks (Text.lines forwardDump.toList)).map Block.frame) := by
    decide +kernel
  have hcues : cues forwardDump =
      .ok [⟨1, ⟨0⟩, ⟨2000⟩, ["A", ""]⟩, ⟨2, ⟨2000⟩, ⟨3500⟩, ["", "B"]⟩] := by
    decide +kernel
  obtain ⟨-, hlines, htimes⟩ := cues_shape hcues
  obtain ⟨hstop, hnext, -⟩ := htimes hforward
  exact ⟨hforward, _, hcues, rfl, fun cue hcue => (hlines cue hcue).2, hstop, hnext⟩

end TrackSelect.OcrDump
