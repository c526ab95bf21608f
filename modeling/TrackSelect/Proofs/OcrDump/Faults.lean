import TrackSelect.Caption.OcrDump

/-!
# Faults of OCR dumps

The only thing that can be wrong with a dump is a marker without its text line, so every fault of
a dump is one of a malformed frame (`cues_error`).
-/

namespace TrackSelect.OcrDump

/-- What fails while frames are read is a frame. -/
theorem framesFrom_error (lineNumber : Nat) (lines : List (List Char)) {fault : Fault}
    (h : framesFrom lineNumber lines = .error fault) :
    ∃ line reason, fault = .malformedFrame line reason := by
  fun_induction framesFrom lineNumber lines with
  | case1 => simp at h
  | case2 n line rest hnone ih => exact ih h
  | case3 => simp at h
  | case4 n line marker hmarker first rest hnone =>
    rw [Except.error.injEq] at h
    exact ⟨_, _, h.symm⟩
  | case5 n line marker hmarker first rest text htext more cause hcause ih =>
    rw [Except.error.injEq] at h
    exact ih (hcause.trans (congrArg Except.error h))
  | case6 => simp at h

/-- A dump without cues has a malformed frame. -/
theorem cues_error {text : String} {fault : Fault} (h : cues text = .error fault) :
    ∃ line reason, fault = .malformedFrame line reason := by
  unfold cues at h
  split at h
  · simp at h
  · next cause hcause =>
    rw [Except.error.injEq] at h
    exact framesFrom_error 1 _ (hcause.trans (congrArg Except.error h))

end TrackSelect.OcrDump
