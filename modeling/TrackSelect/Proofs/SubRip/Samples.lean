import TrackSelect.Proofs.SubRip.Counting
import TrackSelect.Sample

/-!
# The count of a sample document

The sample documents are written for trying out selections. That of some number of cues is the
document of such cues (`subRip_eq_render`), and its count is their number (`count_subRip`), so a
search of sample documents compares the numbers they were made with.
-/

namespace TrackSelect.SubRip

open Text


/-- A whole number of seconds within an hour, and some milliseconds. -/
def sampleTime (seconds millis : Nat) : Timestamp := ⟨1000 * (seconds % 3600) + millis⟩

/-- The cue of a sample document at a position. -/
def sampleCue (position : Nat) : Cue where
  sequence := position + 1
  start := sampleTime (3 * position) 0
  stop := sampleTime (3 * position + 2) 500
  lines := [String.ofList ("Line ".toList ++ digits (position + 1))]

theorem chars_sampleTime (seconds : Nat) {millis : Nat} (h : millis < 1000) :
    (sampleTime seconds millis).chars = Sample.clock seconds ++ ',' :: padded 3 millis := by
  have hhours : (sampleTime seconds millis).hours = 0 := by
    unfold Timestamp.hours sampleTime
    dsimp only
    omega
  have hminutes : (sampleTime seconds millis).minutes = seconds / 60 % 60 := by
    unfold Timestamp.minutes sampleTime
    dsimp only
    omega
  have hseconds : (sampleTime seconds millis).seconds = seconds % 60 := by
    unfold Timestamp.seconds sampleTime
    dsimp only
    omega
  have hfraction : (sampleTime seconds millis).fraction = millis := by
    unfold Timestamp.fraction sampleTime
    dsimp only
    omega
  rw [Timestamp.chars_eq, Timestamp.clockChars, hhours, hminutes, hseconds, hfraction]
  rfl

theorem textLines_sampleCue (position : Nat) :
    textLines (sampleCue position) = ["Line ".toList ++ digits (position + 1)] := by
  have hline : (!allBlank ("Line ".toList ++ digits (position + 1))) = true := rfl
  rw [textLines, sampleCue, List.map_singleton, String.toList_ofList]
  exact List.filter_cons_of_pos hline

/-- A sample document is one that is written. -/
theorem subRip_eq_render (cues : Nat) :
    Sample.subRip cues = render ((List.range cues).map sampleCue) := by
  have hcue : ∀ position, Sample.subRipCue position =
      (cueLines (sampleCue position)).flatMap (· ++ ['\n']) := by
    intro position
    rw [cueLines, textLines_sampleCue, timingLine, sampleCue, chars_sampleTime _ (by decide),
      chars_sampleTime _ (by decide)]
    have hzero : padded 3 0 = ['0', '0', '0'] := by decide
    have hhalf : padded 3 500 = ['5', '0', '0'] := by decide
    simp [Sample.subRipCue, arrow, hzero, hhalf]
  rw [Sample.subRip, render, chars, List.flatMap_map, List.flatMap_assoc]
  exact congrArg String.ofList (congrArg (List.flatMap · _) (funext hcue))

/-- **A sample document is counted whole**: its clocks stay below one hundred hours. -/
theorem count_subRip (cues : Nat) : count (Sample.subRip cues) = cues := by
  have htexts : ∀ cue ∈ (List.range cues).map sampleCue, ∀ line ∈ cue.lines,
      '\n' ∉ line.toList ∧ startsLike timingForm line.toList = false := by
    intro cue hcue line hline
    obtain ⟨position, -, rfl⟩ := List.mem_map.1 hcue
    obtain rfl := List.mem_singleton.1 hline
    rw [String.toList_ofList]
    constructor
    · rw [List.mem_append, not_or]
      exact ⟨by decide, fun hfeed => absurd (isDigit_of_mem_digits hfeed) (by decide)⟩
    · rfl
  have hlow : ∀ cue ∈ (List.range cues).map sampleCue, isBelowHundredHours cue := by
    intro cue hcue
    obtain ⟨position, -, rfl⟩ := List.mem_map.1 hcue
    unfold isBelowHundredHours sampleCue sampleTime
    simp only [Bool.and_eq_true, decide_eq_true_eq]
    omega
  rw [subRip_eq_render, count_eq_countP htexts, List.countP_eq_length.2 hlow, List.length_map,
    List.length_range]

end TrackSelect.SubRip
