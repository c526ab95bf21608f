import TrackSelect.Proofs.ForeignAudio.Reordering
import TrackSelect.Proofs.Ingest.Writing
import TrackSelect.Proofs.Rule.Rounds
import TrackSelect.Proofs.SubRip.Samples
import TrackSelect.Proofs.Text.Utf8

/-!
# The captions of foreign-audio subtitles

The dump of a bitmap subtitle is used twice: a search counts the cues of the document it makes, and
caption making writes that document. When tools give the same dump both times, the two agree: a track
that a search picks has a cue that was counted (`ForeignAudio.exists_cues_of_isSparseIn`), so there is
a cue to be written, and caption making has no reason to drop the track
(`dropped?_of_makeCaptions`). So a bitmap subtitle that is picked after a search is kept, with a
caption file that has a cue when it is read back (`run_keeps_foreign`).
-/

namespace TrackSelect

variable {σ : Type} {tools : Toolbox σ}

/-! ## What was counted -/

/-- A document without cues has none that are counted. -/
theorem ForeignAudio.count_render_nil : SubRip.count (SubRip.render []) = 0 :=
  SubRip.count_eq_countP (by simp)

/-- A sparse bitmap subtitle has a dump whose document has cues that are counted. -/
theorem ForeignAudio.exists_cues_of_isSparseIn {setting : Setting} {track : Track}
    {answer : Except Fault String} (himage : track.isImage setting.imageCodecs = true)
    (halike : tools.AnswersAlike setting.media (.ocr track.index) answer) {pool : List Track}
    {now : World σ} (h : IsSparseIn (counts tools setting pool now) track) :
    ∃ dump cues, answer = .ok dump ∧ OcrDump.cues dump = .ok cues ∧
      0 < SubRip.count (SubRip.render cues) := by
  have hextraction : extraction setting track = .ocr track.index := if_pos himage
  obtain ⟨count, _, hmem, -, hpos, -⟩ := h
  obtain ⟨⟨counted, given⟩, hanswered, hcounted⟩ := List.mem_filterMap.1 hmem
  obtain rfl : track = counted := counted?_track setting hcounted
  obtain rfl := answer_of_mem_answered setting tools (hextraction ▸ halike) _ hanswered
  unfold counted? at hcounted
  rw [hextraction] at hcounted
  cases given with
  | error fault => cases hcounted
  | ok dump =>
    cases hcues : OcrDump.cues dump with
    | error fault => simp [Except.bind, cueCount, hcues] at hcounted
    | ok cues =>
      have hcount : SubRip.count (SubRip.render cues) = count := by
        simpa [Except.bind, cueCount, hcues] using hcounted
      exact ⟨dump, cues, rfl, hcues, hcount ▸ hpos⟩

namespace Ingest

variable {settings : Settings} {media : String}

/-! ## What is written -/

/-- With cues to be written, only the disk can keep a caption file from being made. -/
theorem dropped?_of_makeCaptions {track : Nat} {dump : String} {cues : List Cue}
    (hcues : OcrDump.cues dump = .ok cues) (hsome : cues ≠ []) {now after : World σ} {fault : Fault}
    (hdump : (tools.extract media (.ocr track) now).1 = .ok dump)
    (h : makeCaptions tools settings media track now = (.error fault, after)) :
    dropped? track fault = none := by
  unfold makeCaptions at h
  split at h
  · next hextract =>
    rw [hextract] at hdump
    cases hdump
  · next given _ hextract =>
    rw [hextract] at hdump
    cases hdump
    split at h
    next hfault => cases hcues.symm.trans hfault
    next hnil => exact absurd (Except.ok.inj (hcues.symm.trans hnil)) hsome
    next =>
      split at h
      · next hstored =>
        cases h
        exact dropped?_of_isOfDisk (isOfDisk_of_storeCaptions hstored) track
      · cases h

namespace CaptionRun

variable {world last : World σ} {tracks kept : List Track}

/-- A bitmap subtitle that is never dropped is kept with its caption file. -/
theorem captioned_mem (h : CaptionRun tools settings media world tracks kept last) {track : Track}
    (himage : track.isImage settings.imageCodecs = true)
    (hkept : ∀ now after fault,
      makeCaptions tools settings media track.index now = (.error fault, after) →
        dropped? track.index fault = none)
    (hmem : track ∈ tracks) :
    { track with captions := some (captionPath settings media track.index) } ∈ kept := by
  induction h with
  | done => exact absurd hmem List.not_mem_nil
  | text htext _ ih =>
    rcases List.mem_cons.1 hmem with rfl | hmem
    · simp [himage] at htext
    · exact List.mem_cons_of_mem _ (ih hmem)
  | stored _ _ _ _ _ _ _ ih =>
    rcases List.mem_cons.1 hmem with rfl | hmem
    · exact List.mem_cons_self
    · exact List.mem_cons_of_mem _ (ih hmem)
  | dropped _ hfailed hcheap _ _ ih =>
    rcases List.mem_cons.1 hmem with rfl | hmem
    · rw [hkept _ _ _ hfailed] at hcheap
      cases hcheap
    · exact ih hmem

end CaptionRun

/-- What caption making is answered for a track is what tools always answer. -/
theorem answer_of_mem_ocrAnswers {track : Nat} {answer given : Except Fault String}
    (halike : tools.AnswersAlike media (.ocr track) answer) (tracks : List Track) :
    ∀ {world : World σ}, ⟨.ocr track, given⟩ ∈ ocrAnswers tools settings media world tracks →
      given = answer := by
  induction tracks with
  | nil => exact fun hmem => absurd hmem List.not_mem_nil
  | cons first rest ih =>
    intro world hmem
    cases himage : first.isImage settings.imageCodecs with
    | false => exact ih (ocrAnswers_text himage world rest ▸ hmem)
    | true =>
      rw [ocrAnswers_image himage] at hmem
      rcases List.mem_cons.1 hmem with hfirst | hrest
      · simp only [Answered.mk.injEq, Extraction.ocr.injEq] at hfirst
        rw [hfirst.2, ← hfirst.1]
        exact halike.extract world
      · exact ih hrest

/-! ## Both together -/

/-- **A bitmap subtitle that is picked as foreign gets its captions.** Let tools answer its extraction
alike, and let a rule-set pick it that has searched some pool. Then caption making never drops it.
If the ingestion succeeds, the track is in the selection with its caption file; and if tools leave
the disk alone and the disk keeps what is written to caption files, the file reads as the document of
the cues of the dump, and there is a cue that is counted in it. -/
theorem run_keeps_foreign {world probed : World σ} {report : ProbeReport} {catalog : Catalog}
    {round : RuleSet.Round} {pool : List Track} {track : Track} {answer : Except Fault String}
    (hprobe : tools.probe media world = (.ok report, probed))
    (hlisted : Catalog.ofReport report = .ok catalog)
    (hround : round ∈ RuleSet.rounds tools (searchSetting settings media) {} probed
      settings.subtitle catalog.subtitle)
    (hsearched : pool ∈ round.searched) (hpicked : track ∈ round.picked)
    (himage : track.isImage settings.imageCodecs = true)
    (halike : tools.AnswersAlike media (.ocr track.index) answer) :
    (∀ now after fault, makeCaptions tools settings media track.index now = (.error fault, after) →
      dropped? track.index fault = none) ∧
    ∀ selection, (run tools settings media world).1.outcome = .ok selection →
      { track with captions := some (captionPath settings media track.index) } ∈
        selection.subtitle ∧
      (tools.LeavesDisk media → KeepsCaptions media world.disk →
        ∃ dump cues content, answer = .ok dump ∧ OcrDump.cues dump = .ok cues ∧ cues ≠ [] ∧
          (run tools settings media world).2.disk.load (captionPath settings media track.index) =
            .ok content ∧
          content = captionContent cues ∧ Text.Utf8.decode content = SubRip.render cues ∧
          0 < SubRip.count (Text.Utf8.decode content)) := by
  obtain ⟨now, hsparse⟩ := RuleSet.sparse_of_mem_rounds tools (searchSetting settings media)
    settings.subtitle round hround pool hsearched
  have hpickedSparse : ForeignAudio.IsSparseIn
      (ForeignAudio.counts tools (searchSetting settings media) pool now) track :=
    hsparse track hpicked
  obtain ⟨dump, cues, rfl, hcues, hcounted⟩ :=
    ForeignAudio.exists_cues_of_isSparseIn himage halike hpickedSparse
  have hsome : cues ≠ [] := by
    rintro rfl
    exact absurd hcounted (by rw [ForeignAudio.count_render_nil]; exact Nat.lt_irrefl 0)
  have hkept : ∀ now after fault,
      makeCaptions tools settings media track.index now = (.error fault, after) →
        dropped? track.index fault = none := fun now after fault =>
    dropped?_of_makeCaptions hcues hsome (halike.extract now)
  refine ⟨hkept, fun selection h => ?_⟩
  obtain ⟨report', probed', catalog', picks, picked, last, hstages⟩ := run_stages h
  cases hprobe.symm.trans hstages.probe
  cases hlisted.symm.trans hstages.listed
  have hselected : track ∈ picks.selected := RuleSet.mem_selected_of_mem_rounds tools
    (searchSetting settings media) hstages.select hround hpicked
  have hmem := hstages.captioned.captioned_mem himage hkept hselected
  refine ⟨hmem, fun hleaves hkeeps => ?_⟩
  obtain ⟨places, hwrote⟩ := hstages.wrote hleaves hkeeps
  obtain ⟨place, hplace, dump', cues', hdump, hcues', hsome', hread⟩ := hwrote.held _ hmem himage
  cases answer_of_mem_ocrAnswers halike _ hdump
  -- the dump that was counted is the one that is written
  cases hcues.symm.trans hcues'
  have hdecoded : Text.Utf8.decode (captionContent cues) = SubRip.render cues :=
    Text.Utf8.decode_encode (SubRip.render cues)
  rw [hstages.world]
  exact ⟨dump, cues, _, rfl, hcues, hsome, Disk.load_of_read? hplace hread, rfl, hdecoded,
    hdecoded ▸ hcounted⟩

/-- Both bitmap subtitles of the film with three subtitles have one caption, and the text has five. -/
def fullText : Answers where
  probe := .ok ⟨some threeSubtitles⟩
  transcript _ := .ok (Sample.subRip 5)
  ocr _ := .ok shortDump

/-- An English subtitle of that film. -/
def englishSubtitle (index : Nat) (codec : String) : Track :=
  { index, kind := .subtitle, codec, language := some "eng" }

/-- The three subtitles as candidates. -/
def englishSubtitles : List Track :=
  [englishSubtitle 2 "xsub", englishSubtitle 3 "subrip", englishSubtitle 4 "xsub"]

theorem cues_shortDump : OcrDump.cues shortDump = .ok [⟨1, ⟨1000⟩, ⟨2000⟩, ["A"]⟩] := by
  decide +kernel

/-- A search finds the bitmap subtitles. -/
theorem search_fullText (world : World (List Inquiry)) :
    (ForeignAudio.search (.scripted fullText) (searchSetting .default "film.mkv") englishSubtitles
      world).1 = ⟨[englishSubtitle 2 "xsub", englishSubtitle 4 "xsub"], []⟩ := by
  have hone : SubRip.count (SubRip.render [⟨1, ⟨1000⟩, ⟨2000⟩, ["A"]⟩]) = 1 :=
    SubRip.count_eq_countP (by decide)
  have hbitmap : ∀ index, ForeignAudio.extraction (searchSetting .default "film.mkv")
      (englishSubtitle index "xsub") = .ocr index := fun _ => rfl
  have htext : ∀ index, ForeignAudio.extraction (searchSetting .default "film.mkv")
      (englishSubtitle index "subrip") = .transcript index ForeignAudio.format := fun _ => rfl
  rw [ForeignAudio.search_answersBy (Toolbox.scripted_answersBy fullText "film.mkv")]
  simp only [englishSubtitles, List.map_cons, List.map_nil, List.filterMap_cons,
    List.filterMap_nil, ForeignAudio.counted?, ForeignAudio.uncounted?, hbitmap, htext,
    Answers.extract, fullText, Except.bind, ForeignAudio.cueCount, cues_shortDump, hone,
    SubRip.count_subRip]
  cbv

/-- The inquiries until that search is over, the last one first. -/
def inquiriesFullText : List Inquiry :=
  [.extract (.ocr 4), .extract (.transcript 3 "srt"), .extract (.ocr 2), .probe]

/-- The rule-set for English subtitles to foreign dialogue. -/
def foreignEnglish : RuleSet := ⟨"foreign", [.language ["eng"], .foreignAudio]⟩

/-- It searches all three subtitles and picks what is found. -/
theorem narrow_fullText (disk : Disk) :
    RuleSet.narrow (.scripted fullText) (searchSetting .default "film.mkv") {} ⟨disk, [.probe]⟩
      foreignEnglish.rules englishSubtitles =
        (.ok ([englishSubtitle 2 "xsub", englishSubtitle 4 "xsub"],
          { searched := [englishSubtitles] }), ⟨disk, inquiriesFullText⟩) := by
  have hlanguage : Rule.apply .subtitle (.language ["eng"]) englishSubtitles =
      .ok englishSubtitles := rfl
  have hworld : (ForeignAudio.search (.scripted fullText) (searchSetting .default "film.mkv")
      englishSubtitles ⟨disk, [.probe]⟩).2 = ⟨disk, inquiriesFullText⟩ := by
    with_unfolding_all rfl
  rw [foreignEnglish, RuleSet.narrow_of_apply _ _ _ _ (by simp) (by decide) hlanguage,
    RuleSet.narrow_of_search _ _ _ _ (by decide), search_fullText, hworld]
  rfl

/-- The catalog of the film. -/
def threeListed : Catalog where
  video := Catalog.tracksOf .video threeSubtitles
  audio := Catalog.tracksOf .audio threeSubtitles
  subtitle := englishSubtitles

theorem ofReport_threeSubtitles : Catalog.ofReport ⟨some threeSubtitles⟩ = .ok threeListed := rfl

theorem probe_fullText : (Toolbox.scripted fullText).probe "film.mkv" ⟨.fresh, []⟩ =
    (.ok ⟨some threeSubtitles⟩, ⟨.fresh, [.probe]⟩) := rfl

/-- No track is dropped in the end. -/
theorem run_fullText : ∃ selection,
    (run (.scripted fullText) .default "film.mkv" ⟨.fresh, []⟩).1.outcome = .ok selection := by
  have hselect : RuleSet.select (.scripted fullText) (searchSetting .default "film.mkv")
      Settings.default.subtitle threeListed.subtitle ⟨.fresh, [.probe]⟩ =
        (.ok ⟨[englishSubtitle 2 "xsub", englishSubtitle 4 "xsub", englishSubtitle 3 "subrip"], [],
          [englishSubtitles]⟩, ⟨.fresh, inquiriesFullText⟩) :=
    (RuleSet.run_of_narrow _ _ {} _ (List.cons_ne_nil _ _) (narrow_fullText .fresh)
      [⟨"default", [.language ["eng"]]⟩]).trans rfl
  have hmade : (captionAll (.scripted fullText) .default "film.mkv" {} ⟨.fresh, inquiriesFullText⟩
      [englishSubtitle 2 "xsub", englishSubtitle 4 "xsub",
        englishSubtitle 3 "subrip"]).1.toOption.map Captioned.failures = some [] := by
    decide +kernel
  obtain ⟨captioned, hcaptioned, hfailures⟩ := exists_ok_of_map hmade
  obtain ⟨hjudged, -⟩ := subtitles_judged hselect hcaptioned
  have hvalidated : Settings.default.IsValidated := Or.inl rfl
  obtain ⟨video, audio, -, -, houtcome⟩ :=
    run_outcome hvalidated probe_fullText ofReport_threeSubtitles
  rw [houtcome]
  cases hsubtitles : (subtitles (.scripted fullText) .default "film.mkv" threeListed.subtitle
      ⟨.fresh, [.probe]⟩).1 with
  | ok subtitle => exact ⟨_, rfl⟩
  | error fault =>
    -- there was no failure that the ingestion could fail with
    obtain ⟨-, -, hlast⟩ := (hjudged fault).1 hsubtitles
    simp [hfailures] at hlast

theorem render_shortDump : SubRip.render [⟨1, ⟨1000⟩, ⟨2000⟩, ["A"]⟩] = oneCaption := by
  cbv

/-- The caption of the first of them is written. -/
theorem run_keeps_foreign_fullText : ∃ round pool answer selection content,
    (Toolbox.scripted fullText).probe "film.mkv" ⟨.fresh, []⟩ =
      (.ok ⟨some threeSubtitles⟩, ⟨.fresh, [.probe]⟩) ∧
    Catalog.ofReport ⟨some threeSubtitles⟩ = .ok threeListed ∧
    round ∈ RuleSet.rounds (.scripted fullText) (searchSetting .default "film.mkv") {}
      ⟨.fresh, [.probe]⟩ Settings.default.subtitle threeListed.subtitle ∧
    pool ∈ round.searched ∧ englishSubtitle 2 "xsub" ∈ round.picked ∧
    (englishSubtitle 2 "xsub").isImage Settings.default.imageCodecs = true ∧
    (Toolbox.scripted fullText).AnswersAlike "film.mkv" (.ocr 2) answer ∧
    (Toolbox.scripted fullText).LeavesDisk "film.mkv" ∧ KeepsCaptions "film.mkv" .fresh ∧
    (run (.scripted fullText) .default "film.mkv" ⟨.fresh, []⟩).1.outcome = .ok selection ∧
    { englishSubtitle 2 "xsub" with captions := some "film.2.srt" } ∈ selection.subtitle ∧
    (run (.scripted fullText) .default "film.mkv" ⟨.fresh, []⟩).2.disk.load "film.2.srt" =
      .ok content ∧
    Text.Utf8.decode content = oneCaption ∧
    0 < SubRip.count (Text.Utf8.decode content) := by
  have halike := (Toolbox.scripted_answersBy fullText "film.mkv").alike (.ocr 2)
  have hleaves := Toolbox.scripted_leavesDisk fullText "film.mkv"
  have hkeeps := keepsCaptions_fresh "film.mkv"
  have hround : ⟨⟨englishSubtitles, [englishSubtitle 2 "xsub", englishSubtitle 4 "xsub"]⟩,
      [englishSubtitles]⟩ ∈ RuleSet.rounds (.scripted fullText)
        (searchSetting .default "film.mkv") {} ⟨.fresh, [.probe]⟩ Settings.default.subtitle
        threeListed.subtitle := by
    have hrounds := RuleSet.rounds_cons (.scripted fullText) (searchSetting .default "film.mkv")
      (List.cons_ne_nil _ _) (narrow_fullText .fresh) [⟨"default", [.language ["eng"]]⟩]
    exact hrounds ▸ List.mem_cons_self
  have himage : (englishSubtitle 2 "xsub").isImage Settings.default.imageCodecs = true := rfl
  obtain ⟨selection, hselection⟩ := run_fullText
  obtain ⟨-, hkept⟩ := run_keeps_foreign probe_fullText ofReport_threeSubtitles hround
    List.mem_cons_self List.mem_cons_self himage halike
  obtain ⟨hmem, hfile⟩ := hkept selection hselection
  obtain ⟨dump, cues, content, hdump, hcues, -, hload, -, hread, hcounted⟩ := hfile hleaves hkeeps
  cases hdump
  cases cues_shortDump.symm.trans hcues
  exact ⟨_, _, _, selection, content, probe_fullText, ofReport_threeSubtitles, hround,
    List.mem_cons_self, List.mem_cons_self, himage, halike, hleaves, hkeeps, hselection, hmem, hload,
    hread.trans render_shortDump, hcounted⟩

end Ingest

end TrackSelect
