import TrackSelect.Caption.SubRip
import TrackSelect.Proofs.SubRip.Clock
import TrackSelect.Proofs.Text.Lines

/-!
# The lines of a document

When no text line of a cue holds a line feed, what is written of the cues is what a reader finds
between the line feeds of the document: `pieces_chars` for the plain cut, `lines_chars` for lines.
-/

namespace TrackSelect.SubRip

/-- No line of text of a cue holds a line feed. -/
def IsWritable (cue : Cue) : Prop := ∀ line ∈ cue.lines, '\n' ∉ line.toList

/-- A line of text that is written is one of the cue's, and is not blank. -/
theorem mem_textLines {cue : Cue} {line : List Char} :
    line ∈ textLines cue ↔
      (∃ text ∈ cue.lines, text.toList = line) ∧ Text.allBlank line = false := by
  simp [textLines]

theorem feed_notMem_timingLine (cue : Cue) : '\n' ∉ timingLine cue := by
  have hstart := cue.start.notMem_chars (c := '\n') rfl (by decide) (by decide)
  have hstop := cue.stop.notMem_chars (c := '\n') rfl (by decide) (by decide)
  have harrow : '\n' ∉ arrow := by decide
  simp [timingLine, hstart, hstop, harrow]

/-- No line that is written of a cue holds a line feed. -/
theorem IsWritable.feed_notMem {cue : Cue} (h : IsWritable cue) {line : List Char}
    (hline : line ∈ cueLines cue) : '\n' ∉ line := by
  rw [cueLines, List.mem_append, List.mem_cons, List.mem_cons] at hline
  rcases hline with (rfl | rfl | hline) | hline
  · exact fun hmem => absurd (Text.isDigit_of_mem_digits hmem) (by decide)
  · exact feed_notMem_timingLine cue
  · obtain ⟨⟨text, htext, rfl⟩, -⟩ := mem_textLines.1 hline
    exact h text htext
  · simp [List.mem_singleton.1 hline]

theorem feed_notMem_lines {cues : List Cue} (h : ∀ cue ∈ cues, IsWritable cue) :
    ∀ line ∈ cues.flatMap cueLines, '\n' ∉ line := by
  intro line hline
  obtain ⟨cue, hcue, hline⟩ := List.mem_flatMap.1 hline
  exact (h cue hcue).feed_notMem hline

/-- The pieces of a document are the lines of its cues, and the empty one at its end. -/
theorem pieces_chars {cues : List Cue} (h : ∀ cue ∈ cues, IsWritable cue) :
    Text.pieces (chars cues) = cues.flatMap cueLines ++ [[]] :=
  Text.pieces_flatMap_feed (feed_notMem_lines h)

/-- The lines of a document are those of its cues, but for carriage returns. -/
theorem lines_chars {cues : List Cue} (h : ∀ cue ∈ cues, IsWritable cue) :
    Text.lines (chars cues) = (cues.flatMap cueLines).map Text.dropReturn :=
  Text.lines_flatMap_feed (feed_notMem_lines h)

end TrackSelect.SubRip
