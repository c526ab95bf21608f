import Mathlib.Data.List.Nodup
import TrackSelect.Ingest
import TrackSelect.Proofs.OcrDump.Faults
import TrackSelect.Proofs.Toolbox.Recording

/-!
# Making the caption files of a selection

The caption files of the bitmap subtitles are made one after the other, and a failure costs the
track it concerns. When all that is written can be written, what comes of this follows from the
answers of the tools: `captioned?` says of a track whether it is kept, and `captionAll_recorded`
that these are the tracks that are kept, and that the failures are those among the answers.
-/

namespace TrackSelect

/-- The failure that an answer is in caption making: the dump cannot be had, is malformed or has no
cue. -/
def Answered.captionFailure? : Answered → Option Fault
  | ⟨_, .error fault⟩ => some fault
  | ⟨extraction, .ok dump⟩ =>
    match OcrDump.cues dump with
    | .error fault => Ingest.dropped? extraction.track fault
    | .ok [] => some (.extraction extraction.track "OCR produced no captions")
    | .ok (_ :: _) => none

namespace Ingest

variable {σ : Type} (tools : Toolbox σ) (settings : Settings) (media : String)

/-- The caption file of a track can be written, with the folders it needs, if there is any cue to
be written. -/
def StoreSucceeds (world : World σ) (track : Nat) : Prop :=
  ∀ dump cues after, tools.extract media (.ocr track) world = (.ok dump, after) →
    OcrDump.cues dump = .ok cues → cues ≠ [] →
    (storeCaptions settings media track cues after.disk).1 = .ok ()

/-- Every caption file that is written while some tracks are captioned can be written. -/
def StoresSucceed : World σ → List Track → Prop
  | _, [] => True
  | world, track :: rest =>
    if track.isImage settings.imageCodecs then
      StoreSucceeds tools settings media world track.index ∧
        StoresSucceed (makeCaptions tools settings media track.index world).2 rest
    else StoresSucceed world rest

/-- What some answers make of a track: a bitmap subtitle has a caption file from then on, unless
its own answer is a failure; then it is dropped. Other tracks stay as they are. -/
def captioned? (answers : List Answered) (track : Track) : Option Track :=
  if !track.isImage settings.imageCodecs then some track
  else if answers.any fun a => a.extraction = .ocr track.index && a.captionFailure?.isSome then none
  else some { track with captions := some (captionPath settings media track.index) }

/-! ## One caption file -/

variable {tools}

/-- A failed answer makes no caption file, and the failure is kept for the end. -/
theorem makeCaptions_of_failure (hreports : tools.Reports media) {track : Nat} {world : World σ}
    {failure : Fault}
    (h : Answered.captionFailure? ⟨.ocr track, (tools.extract media (.ocr track) world).1⟩ =
      some failure) :
    ∃ fault, (makeCaptions tools settings media track world).1 = .error fault ∧
      dropped? track fault = some failure := by
  generalize hextract : tools.extract media (.ocr track) world = result at h
  obtain ⟨answer, after⟩ := result
  unfold makeCaptions
  simp only [hextract]
  cases answer with
  | error fault =>
    -- tools report nothing but failures of extractions, and these cost no more than the track
    have hreported : fault.isExtraction := hreports.extract_isExtraction (by rw [hextract])
    have hfailure : fault = failure := by simpa [Answered.captionFailure?] using h
    subst hfailure
    refine ⟨fault, rfl, ?_⟩
    cases fault <;> first | rfl | simp [Fault.isExtraction] at hreported
  | ok dump =>
    simp only [Answered.captionFailure?] at h
    cases hcues : OcrDump.cues dump with
    | error fault =>
      simp only [hcues] at h ⊢
      exact ⟨fault, rfl, h⟩
    | ok cues =>
      cases cues with
      | nil =>
        simp only [hcues] at h ⊢
        exact ⟨_, rfl, h⟩
      | cons cue cues => simp [hcues] at h

/-- Any other answer makes the caption file, if it can be written. -/
theorem makeCaptions_of_success {track : Nat} {world : World σ}
    (h : Answered.captionFailure? ⟨.ocr track, (tools.extract media (.ocr track) world).1⟩ = none)
    (hstore : StoreSucceeds tools settings media world track) :
    (makeCaptions tools settings media track world).1 = .ok (captionPath settings media track) := by
  generalize hextract : tools.extract media (.ocr track) world = result at h
  obtain ⟨answer, after⟩ := result
  unfold makeCaptions
  simp only [hextract]
  cases answer with
  | error fault => simp [Answered.captionFailure?] at h
  | ok dump =>
    simp only [Answered.captionFailure?] at h
    cases hcues : OcrDump.cues dump with
    | error fault =>
      -- a malformed frame would have been a failure
      obtain ⟨line, reason, rfl⟩ := OcrDump.cues_error hcues
      simp [hcues, dropped?] at h
    | ok cues =>
      cases cues with
      | nil => simp [hcues] at h
      | cons cue cues =>
        have hok := hstore dump (cue :: cues) after hextract hcues (List.cons_ne_nil cue cues)
        simp only [hcues]
        generalize storeCaptions settings media track (cue :: cues) after.disk = stored at hok ⊢
        obtain ⟨outcome, disk⟩ := stored
        simp only at hok
        rw [hok]

/-- One caption file under recording tools: the one answer is added to the list. -/
theorem makeCaptions_recorded (hreports : tools.Reports media) (track : Nat) (world : World σ)
    (log : List Answered) :
    makeCaptions tools.recording settings media track (world.noting log) =
      ((makeCaptions tools settings media track world).1,
        (makeCaptions tools settings media track world).2.noting
          (log ++ [⟨.ocr track, (tools.extract media (.ocr track) world).1⟩])) := by
  unfold makeCaptions
  rw [hreports.recording_extract]
  generalize tools.extract media (.ocr track) world = result
  obtain ⟨answer, after⟩ := result
  cases answer with
  | error fault => rfl
  | ok dump =>
    simp only
    cases OcrDump.cues dump with
    | error fault => rfl
    | ok cues =>
      cases cues with
      | nil => rfl
      | cons cue cues =>
        simp only [World.noting_disk]
        generalize storeCaptions settings media track (cue :: cues) after.disk = stored
        obtain ⟨outcome, disk⟩ := stored
        cases outcome <;> rfl

/-! ## All caption files -/

/-- An answer about another track does not matter to a track. -/
theorem captioned?_cons_of_ne {track : Track} {answer : Answered}
    (h : answer.extraction ≠ .ocr track.index) (answers : List Answered) :
    captioned? settings media (answer :: answers) track =
      captioned? settings media answers track := by
  simp only [captioned?, List.any_cons, h, decide_false, Bool.false_and, Bool.false_or]

/-- The only answer about a bitmap subtitle decides what becomes of it. -/
theorem captioned?_cons_self {track : Track} (himage : track.isImage settings.imageCodecs = true)
    (answer : Except Fault String) {answers : List Answered}
    (h : ∀ other ∈ answers, other.extraction ≠ .ocr track.index) :
    captioned? settings media (⟨.ocr track.index, answer⟩ :: answers) track =
      if (Answered.captionFailure? ⟨.ocr track.index, answer⟩).isSome then none
      else some { track with captions := some (captionPath settings media track.index) } := by
  have hothers : (answers.any fun a =>
      a.extraction = .ocr track.index && a.captionFailure?.isSome) = false := by
    rw [List.any_eq_false]
    intro other hother
    simp [h other hother]
  simp only [captioned?, himage, List.any_cons, hothers]
  simp

/-- What has come of caption making after one more bitmap subtitle, which its failure drops. -/
def Captioned.take (sofar : Captioned) (track : Track) : Option Fault → Captioned
  | some failure => { sofar with failures := sofar.failures ++ [failure] }
  | none =>
    { sofar with kept := sofar.kept ++
        [{ track with captions := some (captionPath settings media track.index) }] }

/-- One step of caption making, at a bitmap subtitle. -/
theorem captionAll_image (hreports : tools.Reports media) (sofar : Captioned) {world : World σ}
    {track : Track} (himage : track.isImage settings.imageCodecs = true)
    (hstore : StoreSucceeds tools settings media world track.index)
    (rest : List Track) {told : Answered}
    (htold : told = ⟨.ocr track.index, (tools.extract media (.ocr track.index) world).1⟩) :
    captionAll tools settings media sofar world (track :: rest) =
        captionAll tools settings media (sofar.take settings media track told.captionFailure?)
          (makeCaptions tools settings media track.index world).2 rest ∧
      ∀ log, captionAll tools.recording settings media sofar (world.noting log) (track :: rest) =
        captionAll tools.recording settings media
          (sofar.take settings media track told.captionFailure?)
          ((makeCaptions tools settings media track.index world).2.noting (log ++ [told])) rest := by
  subst htold
  have hmake := makeCaptions_recorded settings media hreports track.index world
  cases hfailure : Answered.captionFailure?
      ⟨.ocr track.index, (tools.extract media (.ocr track.index) world).1⟩ with
  | some failure =>
    obtain ⟨fault, hfault, hdropped⟩ := makeCaptions_of_failure settings media hreports hfailure
    generalize hmade : makeCaptions tools settings media track.index world = made at hmake hfault
    obtain ⟨outcome, after⟩ := made
    subst hfault
    constructor
    · simp only [captionAll, himage, hmade, hdropped, Bool.not_true, Captioned.take]
      rfl
    · intro log
      simp only [captionAll, himage, hmake, hdropped, Bool.not_true, Captioned.take]
      rfl
  | none =>
    have hpath := makeCaptions_of_success settings media hfailure hstore
    generalize hmade : makeCaptions tools settings media track.index world = made at hmake hpath
    obtain ⟨outcome, after⟩ := made
    subst hpath
    constructor
    · simp only [captionAll, himage, hmade, Bool.not_true, Captioned.take]
      rfl
    · intro log
      simp only [captionAll, himage, hmake, Bool.not_true, Captioned.take]
      rfl

variable (tools) in
/-- What the answers tell that were given while some tracks were captioned. -/
structure Told (sofar : Captioned) (world : World σ) (tracks : List Track)
    (answers : List Answered) : Prop where
  /-- Recording tools do the same, and add these answers to their list. -/
  recorded : ∀ log, captionAll tools.recording settings media sofar (world.noting log) tracks =
    ((captionAll tools settings media sofar world tracks).1,
      (captionAll tools settings media sofar world tracks).2.noting (log ++ answers))
  /-- They decide what is kept, and the failures are those among them. -/
  outcome : (captionAll tools settings media sofar world tracks).1 =
    .ok ⟨sofar.kept ++ tracks.filterMap (captioned? settings media answers),
      sofar.failures ++ answers.filterMap Answered.captionFailure?⟩
  /-- There is one for each bitmap subtitle. -/
  about : answers.map Answered.extraction =
    (tracks.filter (·.isImage settings.imageCodecs)).map fun track => .ocr track.index
  /-- They are answers of the tools. -/
  given : ∀ told ∈ answers, ∃ before, told.answer = (tools.extract media told.extraction before).1

namespace Told

variable {settings media} {sofar : Captioned} {world after : World σ} {track : Track}
  {rest : List Track} {answers : List Answered} {told : Answered}

/-- Answers about some tracks are not about another one. -/
theorem extraction_ne (h : Told tools settings media sofar world rest answers)
    (hfresh : track.index ∉ rest.map Track.index) :
    ∀ told ∈ answers, told.extraction ≠ .ocr track.index := by
  intro told htold heq
  have hmem := List.mem_map_of_mem (f := Answered.extraction) htold
  rw [h.about, heq] at hmem
  obtain ⟨other, hother, hindex⟩ := List.mem_map.1 hmem
  rw [Extraction.ocr.injEq] at hindex
  exact hfresh (hindex ▸ List.mem_map_of_mem (List.mem_of_mem_filter hother))

/-- A track that needs no caption file is kept without an answer. -/
theorem text (himage : track.isImage settings.imageCodecs = false)
    (h : Told tools settings media { sofar with kept := sofar.kept ++ [track] } world rest answers) :
    Told tools settings media sofar world (track :: rest) answers where
  recorded log := by simpa [captionAll, himage] using h.recorded log
  outcome := by
    have hself : captioned? settings media answers track = some track := by
      simp [captioned?, himage]
    simpa [captionAll, himage, hself] using h.outcome
  about := by simpa [himage] using h.about
  given := h.given

/-- A bitmap subtitle has an answer of its own, which no other track has anything to do with. -/
theorem image (hreports : tools.Reports media)
    (himage : track.isImage settings.imageCodecs = true)
    (hstore : StoreSucceeds tools settings media world track.index)
    (hfresh : track.index ∉ rest.map Track.index)
    (htold : told = ⟨.ocr track.index, (tools.extract media (.ocr track.index) world).1⟩)
    (h : Told tools settings media (sofar.take settings media track told.captionFailure?)
      (makeCaptions tools settings media track.index world).2 rest answers) :
    Told tools settings media sofar world (track :: rest) (told :: answers) := by
  obtain ⟨hstep, hrecorded⟩ := captionAll_image settings media hreports sofar himage hstore rest htold
  have hself := captioned?_cons_self settings media himage
    (tools.extract media (.ocr track.index) world).1 (h.extraction_ne hfresh)
  -- the tracks behind it do not mind its answer
  have hrest : rest.filterMap (captioned? settings media (told :: answers)) =
      rest.filterMap (captioned? settings media answers) := by
    refine List.filterMap_congr fun other hother => captioned?_cons_of_ne settings media ?_ answers
    rw [htold]
    intro heq
    rw [Extraction.ocr.injEq] at heq
    exact hfresh (heq ▸ List.mem_map_of_mem hother)
  rw [← htold] at hself
  constructor
  · intro log
    rw [hrecorded, h.recorded, hstep, List.append_assoc, List.singleton_append]
  · rw [hstep, h.outcome]
    cases hfailure : told.captionFailure? with
    | some failure => simp [Captioned.take, hself, hfailure, hrest]
    | none => simp [Captioned.take, hself, hfailure, hrest]
  · simp [himage, h.about, htold]
  · exact List.forall_mem_cons.2 ⟨⟨world, by rw [htold]⟩, h.given⟩

end Told

/-- **Caption making under recording tools.** If all that is written can be written, there are
answers that tell what comes of it. -/
theorem captionAll_recorded (hreports : tools.Reports media) (tracks : List Track) :
    ∀ (sofar : Captioned) (world : World σ), (tracks.map Track.index).Nodup →
      StoresSucceed tools settings media world tracks →
      ∃ answers, Told tools settings media sofar world tracks answers := by
  induction tracks with
  | nil =>
    intro sofar world _ _
    exact ⟨[], fun log => by simp [captionAll], by simp [captionAll], rfl, by simp⟩
  | cons track rest ih =>
    intro sofar world hdistinct hstores
    obtain ⟨hfresh, hdistinct⟩ := List.nodup_cons.1 hdistinct
    by_cases himage : track.isImage settings.imageCodecs = true
    · rw [StoresSucceed, if_pos himage] at hstores
      obtain ⟨answers, h⟩ := ih _ _ hdistinct hstores.2
      exact ⟨_, h.image hreports himage hstores.1 hfresh rfl⟩
    · rw [StoresSucceed, if_neg himage] at hstores
      obtain ⟨answers, h⟩ := ih _ world hdistinct hstores
      exact ⟨answers, h.text (by simpa using himage)⟩

/-! ## Tools that answer by a function -/

/-- What tools that answer by a function answer when some tracks are captioned. -/
def captionAnswers (settings : Settings) (answer : Extraction → Except Fault String)
    (tracks : List Track) : List Answered :=
  (tracks.filter (·.isImage settings.imageCodecs)).map fun track =>
    ⟨.ocr track.index, answer (.ocr track.index)⟩

/-- Caption making with tools that answer by a function. -/
theorem captionAll_answered {answer : Extraction → Except Fault String}
    (hanswers : tools.AnswersBy media answer) (hreports : tools.Reports media) {tracks : List Track}
    {world : World σ} (hdistinct : (tracks.map Track.index).Nodup)
    (hstores : StoresSucceed tools settings media world tracks) :
    (captionAll tools settings media {} world tracks).1 =
      .ok ⟨tracks.filterMap (captioned? settings media (captionAnswers settings answer tracks)),
        (captionAnswers settings answer tracks).filterMap Answered.captionFailure?⟩ := by
  obtain ⟨answers, htold⟩ :=
    captionAll_recorded settings media hreports tracks {} world hdistinct hstores
  -- an answer is that of the function, so the extractions are enough to know the answers
  have hanswered : answers = (answers.map Answered.extraction).map fun extraction =>
      ⟨extraction, answer extraction⟩ := by
    rw [List.map_map]
    refine (List.map_id answers).symm.trans (List.map_congr_left fun told hmem => ?_)
    obtain ⟨before, hbefore⟩ := htold.given told hmem
    obtain ⟨extraction, given⟩ := told
    rw [hanswers.extract] at hbefore
    exact congrArg (Answered.mk extraction) hbefore
  have hall : answers = captionAnswers settings answer tracks := by
    rw [hanswered, htold.about, List.map_map]
    rfl
  rw [htold.outcome, hall, List.nil_append, List.nil_append]

/-- The order of answers does not matter to a track. -/
theorem captioned?_perm {answers₁ answers₂ : List Answered} (h : answers₁.Perm answers₂)
    (track : Track) :
    captioned? settings media answers₁ track = captioned? settings media answers₂ track := by
  rw [captioned?, captioned?, h.any_eq]

/-- Captioning the same tracks in another order keeps the same tracks, with the same caption files,
after the same failures. -/
theorem captionAnswers_perm (answer : Extraction → Except Fault String)
    {tracks₁ tracks₂ : List Track} (h : tracks₁.Perm tracks₂) :
    (tracks₁.filterMap (captioned? settings media (captionAnswers settings answer tracks₁))).Perm
        (tracks₂.filterMap (captioned? settings media (captionAnswers settings answer tracks₂))) ∧
      ((captionAnswers settings answer tracks₁).filterMap Answered.captionFailure?).Perm
        ((captionAnswers settings answer tracks₂).filterMap Answered.captionFailure?) := by
  have hanswers : (captionAnswers settings answer tracks₁).Perm
      (captionAnswers settings answer tracks₂) := (h.filter _).map _
  refine ⟨?_, hanswers.filterMap _⟩
  rw [funext (captioned?_perm settings media hanswers)]
  exact h.filterMap _

end Ingest

end TrackSelect
