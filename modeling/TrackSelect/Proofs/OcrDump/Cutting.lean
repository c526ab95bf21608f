import TrackSelect.Proofs.OcrDump.Unanswered
import TrackSelect.Proofs.Text.Lines
import TrackSelect.Sample

/-!
# Dumps that are cut off

A dump that is still being written, or that was cut off at the end of a line, has its cues already:
those that are closed are final. The last frame read so far is not; lines may come that continue
it, and may even give it its first text (`Grown`). But its cue is still open then, so nothing of it
is among the cues.

* **`blocks_grown`**: how the frames of a dump grow with the lines behind it;
* **`cuesFrom_grown`**: the cues of grown frames start with the cues of the frames;
* **`cues_cut`**: the cues of a cut dump are the first ones of the whole, and a faulty dump has
  them up to the faulty line.
-/

namespace TrackSelect.OcrDump

/-- The text `part` is the start of `text`, up to the end of a line. -/
structure IsCut (part text : String) : Prop where
  wholeLines : Text.WholeLines part.toList
  isStart : part.toList <+: text.toList

/-- The frames of a part of a dump, and those of the whole: the last frame of the part may have
more lines in the whole, and more frames may follow. -/
inductive Grown : List Frame → List Frame → Prop
  | nil (later : List Frame) : Grown [] later
  | last (frame : Frame) (more : List String) (later : List Frame) :
    Grown [frame] ({ frame with lines := frame.lines ++ more } :: later)
  | cons (frame : Frame) {few many : List Frame} :
    Grown few many → Grown (frame :: few) (frame :: many)

/-! ## Cuts -/

/-- The lines of a cut are the first lines of the text. -/
theorem IsCut.lines_start {part text : String} (h : IsCut part text) :
    Text.lines part.toList <+: Text.lines text.toList := by
  obtain ⟨rest, hrest⟩ := h.isStart
  rw [← hrest, Text.lines_append h.wholeLines]
  exact List.prefix_append _ _

/-- Of two cuts of a text the shorter is a cut of the longer. -/
theorem IsCut.of_le {part longer text : String} (h : IsCut part text) (hlonger : IsCut longer text)
    (hle : part.length ≤ longer.length) : IsCut part longer :=
  ⟨h.wholeLines, List.prefix_of_prefix_length_le h.isStart hlonger.isStart
    (by rwa [String.length_toList, String.length_toList])⟩

/-! ## Frames and cues of a part -/

/-- The first lines of answered lines are answered. -/
theorem IsAnswered.of_start {lines whole : List (List Char)} (h : IsAnswered whole)
    (hstart : lines <+: whole) : IsAnswered lines := List.IsChain.prefix h hstart

/-- **The frames of a dump grow with it.** -/
theorem blocks_grown (lines : List (List Char)) (h : IsAnswered lines) :
    ∀ rest, IsAnswered (lines ++ rest) →
      Grown ((blocks lines).map Block.frame) ((blocks (lines ++ rest)).map Block.frame) := by
  induction lines, h using IsAnswered.induction with
  | nil => exact fun rest _ => .nil _
  | skip line lines h hline ih =>
    intro rest hwhole
    rw [List.cons_append, blocks_cons_of_not hline, blocks_cons_of_not hline]
    exact ih rest hwhole.tail
  | last line h hline => exact fun rest _ => .nil _
  | block line first lines h hline hfirst ih =>
    intro rest hwhole
    obtain ⟨text, htext⟩ := Option.isSome_iff_exists.1 hfirst
    rw [List.cons_append, List.cons_append] at hwhole ⊢
    rw [blocks_of_marker hline htext, blocks_of_marker hline htext]
    by_cases hmore : ∃ l ∈ lines, isMarker l = true
    · -- the block is closed by a marker, so it is the same in the whole
      obtain ⟨marker, hmem, hmarker⟩ := hmore
      obtain ⟨htake, hdrop⟩ := split_append hmem hmarker rest
      have hbehind := hwhole.tail.tail.dropWhile (!isMarker ·)
      rw [hdrop] at hbehind
      rw [htake, hdrop]
      exact .cons _ (ih rest hbehind)
    · -- the block is the last one, so it goes on with lines of the rest
      have hcalm : ∀ l ∈ lines, (!isMarker l) = true := by
        intro l hl
        rw [Bool.not_eq_true']
        exact Bool.eq_false_iff.2 fun hmarker => hmore ⟨l, hl, hmarker⟩
      rw [List.takeWhile_append_of_pos hcalm, List.takeWhile_eq_self_iff.2 hcalm,
        List.dropWhile_eq_nil_iff.2 hcalm]
      have hgrown := Grown.last (Block.frame ⟨line, first, lines⟩)
        ((rest.takeWhile (!isMarker ·)).map kept)
      simpa [Block.frame] using hgrown _

/-- **Cues stay when frames grow.** A cue is closed by the next frame, whose moment does not depend
on its lines. -/
theorem cuesFrom_grown {few many : List Frame} (h : Grown few many) :
    ∀ opened made, cuesFrom opened made few <+: cuesFrom opened made many := by
  induction h with
  | nil later =>
    intro opened made
    exact List.nil_prefix
  | last frame more later =>
    -- the frame closes the open cue at the same moment, and its own cue is still to come
    intro opened made
    cases opened with
    | none => exact List.nil_prefix
    | some first => exact List.prefix_append [_] _
  | cons frame hgrown ih =>
    intro opened made
    cases opened with
    | none => exact ih _ made
    | some first => exact (List.prefix_cons_inj _).2 (ih _ (made + 1))

/-- The cues of a cut of an answered dump are the first of its cues. -/
theorem IsCut.cues_start {part text : String} (h : IsCut part text)
    (hanswered : IsAnswered (Text.lines text.toList)) :
    ∃ early all, cues part = .ok early ∧ cues text = .ok all ∧ early <+: all := by
  have hpart := hanswered.of_start h.lines_start
  obtain ⟨rest, hrest⟩ := h.lines_start
  have hgrown := blocks_grown _ hpart rest (hrest ▸ hanswered)
  rw [hrest] at hgrown
  exact ⟨_, _, cues_eq_ok_of_isAnswered hpart, cues_eq_ok_of_isAnswered hanswered,
    cuesFrom_grown hgrown none 0⟩

/-- In front of the line a fault names, lines are answered. -/
theorem IsCut.isAnswered_of_lt {part text : String} (h : IsCut part text) {place : Nat}
    {marker : Marker} {next : List Char}
    (hlacks : FirstLacksText (Text.lines text.toList) place marker next)
    (hlt : (Text.lines part.toList).length < place + 2) :
    IsAnswered (Text.lines part.toList) := by
  refine (firstLacksText_iff.1 hlacks).2.of_start ?_
  exact List.prefix_take_iff.2 ⟨h.lines_start, by omega⟩

/-- **A cut dump has the first cues of the whole.** If the whole has cues, so has every cut at the
end of a line, and they are the first ones of the whole, with the same numbers, times and lines.
If the whole is faulty, no cut is that has fewer lines than the number of the faulty one, and its
cues are the first ones of every longer such cut. -/
theorem cues_cut {part text : String} (hcut : IsCut part text) :
    (∀ all, cues text = .ok all → ∃ early, cues part = .ok early ∧ early <+: all) ∧
      ∀ fault, cues text = .error fault →
        ∃ number reason, fault = .malformedFrame number reason ∧
          ((Text.lines part.toList).length < number →
            ∃ early, cues part = .ok early ∧
              ∀ longer, IsCut longer text → part.length ≤ longer.length →
                (Text.lines longer.toList).length < number →
                  ∃ more, cues longer = .ok more ∧ early <+: more) := by
  rcases isAnswered_or_firstLacksText (Text.lines text.toList) with
    hanswered | ⟨place, marker, next, hlacks⟩
  · obtain ⟨early, whole, hearly, hwhole, hstart⟩ := hcut.cues_start hanswered
    constructor
    · intro all hall
      rw [hwhole, Except.ok.injEq] at hall
      exact ⟨early, hearly, hall ▸ hstart⟩
    · intro fault hfault
      rw [hwhole] at hfault
      contradiction
  · have hfault := cues_of_firstLacksText hlacks
    constructor
    · intro all hall
      rw [hfault] at hall
      contradiction
    · intro fault hsame
      rw [hfault, Except.error.injEq] at hsame
      refine ⟨_, _, hsame.symm, ?_⟩
      intro hlt
      have hpart := hcut.isAnswered_of_lt hlacks hlt
      refine ⟨_, cues_eq_ok_of_isAnswered hpart, ?_⟩
      intro longer hlonger hle hlonger_lt
      obtain ⟨early, more, hearly, hmore, hstart⟩ := (hcut.of_le hlonger hle).cues_start
        (hlonger.isAnswered_of_lt hlacks hlonger_lt)
      rw [cues_eq_ok_of_isAnswered hpart, Except.ok.injEq] at hearly
      exact ⟨more, hmore, hearly ▸ hstart⟩

/-- A frame with text and one without. -/
def earlyFrames : List Char := Sample.frame 0 2 ['A'] ++ Sample.frame 1 4 []

/-- What gives the second of them a text after all, and a frame that closes its cue. -/
def laterFrames : List Char := 'B' :: '\n' :: Sample.frame 2 6 []

/-- A marker behind all these frames, in line eight, without a text line in line nine. -/
def faultyEnd : List Char := "frame:3 pts:x\nend".toList

/-- The cue of the first frame is there as soon as the second frame is; with the faulty end it
is there up to line eight. -/
theorem cues_cut_earlyFrames :
    (IsCut (.ofList earlyFrames) (.ofList (earlyFrames ++ laterFrames)) ∧
        ∃ early, cues (.ofList earlyFrames) = .ok early ∧
          early <+: [⟨1, ⟨1000⟩, ⟨2000⟩, ["A"]⟩, ⟨2, ⟨2000⟩, ⟨3000⟩, ["", "B"]⟩]) ∧
      IsCut (.ofList earlyFrames) (.ofList (earlyFrames ++ (laterFrames ++ faultyEnd))) ∧
        ∃ early, cues (.ofList earlyFrames) = .ok early ∧
          ∀ longer, IsCut longer (.ofList (earlyFrames ++ (laterFrames ++ faultyEnd))) →
            (String.ofList earlyFrames).length ≤ longer.length →
              (Text.lines longer.toList).length < 9 →
                ∃ more, cues longer = .ok more ∧ early <+: more := by
  have hcut : ∀ rest, IsCut (.ofList earlyFrames) (.ofList (earlyFrames ++ rest)) := by
    intro rest
    constructor
    · rw [String.toList_ofList]
      decide +kernel
    · rw [String.toList_ofList, String.toList_ofList]
      exact List.prefix_append _ _
  constructor
  · have hanswered :
        IsAnswered (Text.lines (String.ofList (earlyFrames ++ laterFrames)).toList) := by
      rw [String.toList_ofList]
      decide +kernel
    have hcues : cues (.ofList (earlyFrames ++ laterFrames)) =
        .ok [⟨1, ⟨1000⟩, ⟨2000⟩, ["A"]⟩, ⟨2, ⟨2000⟩, ⟨3000⟩, ["", "B"]⟩] := by
      rw [cues_eq_ok_of_isAnswered hanswered, String.toList_ofList]
      decide +kernel
    exact ⟨hcut laterFrames, (cues_cut (hcut laterFrames)).1 _ hcues⟩
  · have hlacks : FirstLacksText (Text.lines (earlyFrames ++ (laterFrames ++ faultyEnd))) 7
        ⟨3, none⟩ "end".toList :=
      firstLacksText_iff.2 ⟨⟨by decide +kernel, by decide +kernel, by decide +kernel⟩,
        by decide +kernel⟩
    rw [← String.toList_ofList (l := earlyFrames ++ (laterFrames ++ faultyEnd))] at hlacks
    obtain ⟨number, reason, hsame, hearly⟩ :=
      (cues_cut (hcut (laterFrames ++ faultyEnd))).2 _ (cues_of_firstLacksText hlacks)
    rw [missingText, Fault.malformedFrame.injEq] at hsame
    rw [← hsame.1, String.toList_ofList] at hearly
    exact ⟨hcut _, hearly (by decide +kernel)⟩

end TrackSelect.OcrDump
