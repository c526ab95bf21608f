import TrackSelect.Proofs.Catalog.Indices
import TrackSelect.Proofs.Ingest.Captioning
import TrackSelect.Proofs.Rule.Pool
import TrackSelect.Proofs.Rule.Recorded
import TrackSelect.Proofs.Settings.Validated

/-!
# When an ingestion fails

Failures of extractions are collected in searches and in caption making, and judged at the end
only. `account` tells what became of the subtitles of an ingestion by nothing but the answers of
the tools: what was picked, and what each answer was. `FailsWith` are the three ways for an
ingestion to fail, with the fault that it comes to, and `run_error_iff` says that there is no
other.
-/

namespace TrackSelect.Ingest

variable {σ : Type} (tools : Toolbox σ) (settings : Settings) (media : String)

/-- What became of the subtitles of an ingestion. -/
structure Account where
  /-- The candidates that the rule-sets picked. -/
  picked : List Track
  /-- The answers that searches were given, in order. -/
  searched : List Answered
  /-- The answers that caption making was given, in order. -/
  captioned : List Answered

/-- The account of the subtitles of an ingestion, from its candidates. -/
def account (candidates : List Track) (world : World σ) : Account :=
  match RuleSet.select tools.recording (searchSetting settings media) settings.subtitle candidates
      (world.noting []) with
  | (.error _, after) => ⟨[], after.memory.2, []⟩
  | (.ok picks, after) =>
    let (_, last) := captionAll tools.recording settings media {}
      (World.noting ⟨after.disk, after.memory.1⟩ []) picks.selected
    ⟨picks.selected, after.memory.2, last.memory.2⟩

namespace Account

/-- The failures of an account, in order: those of searches come first. -/
def failures (account : Account) : List Fault :=
  account.searched.filterMap Answered.searchFailure? ++
    account.captioned.filterMap Answered.captionFailure?

/-- The subtitles that are left: what was picked, without the tracks that were dropped. -/
def kept (account : Account) : List Track :=
  account.picked.filterMap (captioned? settings media account.captioned)

end Account

/-- Every caption file that is written for some candidates can be written. -/
def CaptionsSucceed (candidates : List Track) (world : World σ) : Prop :=
  ∀ picks after,
    RuleSet.select tools (searchSetting settings media) settings.subtitle candidates world =
      (.ok picks, after) → StoresSucceed tools settings media after picks.selected

/-- Every caption file that the ingestion writes can be written, with the folders it needs. -/
def WritesSucceed (world : World σ) : Prop :=
  ∀ report probed catalog, tools.probe media world = (.ok report, probed) →
    Catalog.ofReport report = .ok catalog →
    CaptionsSucceed tools settings media catalog.subtitle probed

/-- How an ingestion fails, and with what. -/
inductive FailsWith (world : World σ) : Fault → Prop where
  /-- The media file cannot be probed. -/
  | probe {fault : Fault} (failed : (tools.probe media world).1 = .error fault) :
    FailsWith world fault
  /-- Its report makes no catalog. -/
  | report {fault : Fault} {report : ProbeReport} {after : World σ}
    (probed : tools.probe media world = (.ok report, after))
    (rejected : Catalog.ofReport report = .error fault) : FailsWith world fault
  /-- No subtitle is left though there were candidates, and this is the last of the failures. -/
  | subtitles {fault : Fault} {report : ProbeReport} {after : World σ} {catalog : Catalog}
    (probed : tools.probe media world = (.ok report, after))
    (listed : Catalog.ofReport report = .ok catalog) (candidates : catalog.subtitle ≠ [])
    (empty : (account tools settings media catalog.subtitle after).kept settings media = [])
    (last : (account tools settings media catalog.subtitle after).failures.getLast? = some fault) :
    FailsWith world fault

namespace FailsWith

variable {tools settings media} {world probed : World σ} {fault cause : Fault}

/-- A media file that cannot be probed is failed with what the probe failed with. -/
theorem iff_of_unprobed (h : tools.probe media world = (.error cause, probed)) :
    FailsWith tools settings media world fault ↔ cause = fault := by
  constructor
  · intro hfails
    cases hfails with
    | probe failed =>
      rw [h] at failed
      exact Except.error.inj failed
    | report probed' => simp [h] at probed'
    | subtitles probed' => simp [h] at probed'
  · rintro rfl
    exact .probe (by rw [h])

/-- A report that makes no catalog is failed with its fault. -/
theorem iff_of_rejected {report : ProbeReport} (h : tools.probe media world = (.ok report, probed))
    (hcatalog : Catalog.ofReport report = .error cause) :
    FailsWith tools settings media world fault ↔ cause = fault := by
  constructor
  · intro hfails
    cases hfails with
    | probe failed => simp [h] at failed
    | report probed' rejected =>
      cases h.symm.trans probed'
      exact Except.error.inj (hcatalog.symm.trans rejected)
    | subtitles probed' listed =>
      cases h.symm.trans probed'
      cases hcatalog.symm.trans listed
  · rintro rfl
    exact .report h hcatalog

/-- With a catalog, only subtitles can fail. -/
theorem iff_of_listed {report : ProbeReport} {catalog : Catalog}
    (h : tools.probe media world = (.ok report, probed))
    (hcatalog : Catalog.ofReport report = .ok catalog) :
    FailsWith tools settings media world fault ↔ catalog.subtitle ≠ [] ∧
      (account tools settings media catalog.subtitle probed).kept settings media = [] ∧
      (account tools settings media catalog.subtitle probed).failures.getLast? = some fault := by
  constructor
  · intro hfails
    cases hfails with
    | probe failed => simp [h] at failed
    | report probed' rejected =>
      cases h.symm.trans probed'
      cases hcatalog.symm.trans rejected
    | subtitles probed' listed candidates empty last =>
      cases h.symm.trans probed'
      cases hcatalog.symm.trans listed
      exact ⟨candidates, empty, last⟩
  · rintro ⟨candidates, empty, last⟩
    exact .subtitles h hcatalog candidates empty last

end FailsWith

/-! ## The subtitles -/

variable {tools settings media}

/-- The account tells what rule-sets and caption making come to. -/
theorem account_tells (hreports : tools.Reports media) {candidates : List Track}
    (hdistinct : (candidates.map Track.index).Nodup) {world : World σ}
    (hwrites : CaptionsSucceed tools settings media candidates world) :
    let told := account tools settings media candidates world
    ∃ picks after,
      RuleSet.select tools (searchSetting settings media) settings.subtitle candidates world =
        (.ok picks, after) ∧
      picks.failures = told.searched.filterMap Answered.searchFailure? ∧
      (captionAll tools settings media {} after picks.selected).1 =
        .ok ⟨told.kept settings media, told.captioned.filterMap Answered.captionFailure?⟩ := by
  obtain ⟨picks, after, searched, hselect, hrecorded, hfailures⟩ := RuleSet.select_recorded tools
    (searchSetting settings media) settings.subtitle candidates world
  have hpicked : (picks.selected.map Track.index).Nodup := by
    obtain ⟨picks', after', hselect', -, hpart⟩ := RuleSet.select_subperm tools
      (searchSetting settings media) settings.subtitle world hdistinct
    cases hselect.symm.trans hselect'
    exact RuleSet.nodup_of_subperm hpart hdistinct
  obtain ⟨captioned, hcaptioned⟩ := captionAll_recorded settings media hreports picks.selected {}
    after hpicked (hwrites picks after hselect)
  -- the recorded run is the run itself, with the answers beside it
  have htold : account tools settings media candidates world =
      ⟨picks.selected, searched, captioned⟩ := by
    unfold account
    simp only [hrecorded]
    have hworld : World.noting ⟨(after.noting searched).disk, (after.noting searched).memory.1⟩ [] =
      after.noting [] := rfl
    simp only [List.nil_append, hworld, hcaptioned.recorded, World.noting_log]
  refine ⟨picks, after, hselect, ?_, ?_⟩
  · rw [hfailures, htold]
  · rw [hcaptioned.outcome, htold]
    rfl

/-- How subtitles are judged in the end: they fail only when none is left of some candidates, and
then with the last failure. -/
theorem subtitles_judged {candidates : List Track} {world after : World σ} {picks : Picks}
    {captioned : Captioned}
    (hselect : RuleSet.select tools (searchSetting settings media) settings.subtitle candidates
      world = (.ok picks, after))
    (hmade : (captionAll tools settings media {} after picks.selected).1 = .ok captioned) :
    (∀ fault, (subtitles tools settings media candidates world).1 = .error fault ↔
      candidates ≠ [] ∧ captioned.kept = [] ∧
        (picks.failures ++ captioned.failures).getLast? = some fault) ∧
    ∀ kept, (subtitles tools settings media candidates world).1 = .ok kept →
      kept = captioned.kept := by
  generalize hresult : captionAll tools settings media {} after picks.selected = result at hmade
  obtain ⟨outcome, last⟩ := result
  subst hmade
  unfold subtitles
  simp only [hselect, hresult]
  -- without a failure nothing is wrong with an empty result
  cases (picks.failures ++ captioned.failures).getLast? with
  | none => exact ⟨by simp, by simp [eq_comm]⟩
  | some failure =>
    by_cases hleft : candidates ≠ [] ∧ captioned.kept = []
    · exact ⟨by simp [hleft], by simp [hleft]⟩
    · have hnot : (candidates ≠ [] && captioned.kept = []) = false := by simpa using hleft
      simp only [hnot, Bool.false_eq_true, if_false]
      refine ⟨fun fault => ⟨fun h => by simp at h, fun h => absurd ⟨h.1, h.2.1⟩ hleft⟩, ?_⟩
      intro kept h
      exact (Except.ok.inj h).symm

/-- The subtitles of an ingestion, by the account of them. -/
theorem subtitles_outcome (hreports : tools.Reports media) {candidates : List Track}
    (hdistinct : (candidates.map Track.index).Nodup) {world : World σ}
    (hwrites : CaptionsSucceed tools settings media candidates world) :
    let told := account tools settings media candidates world
    (∀ fault, (subtitles tools settings media candidates world).1 = .error fault ↔
      candidates ≠ [] ∧ told.kept settings media = [] ∧ told.failures.getLast? = some fault) ∧
    ∀ kept, (subtitles tools settings media candidates world).1 = .ok kept →
      kept = told.kept settings media := by
  obtain ⟨picks, after, hselect, hsearched, hcaptioned⟩ :=
    account_tells hreports hdistinct hwrites
  have hjudged := subtitles_judged hselect hcaptioned
  rw [hsearched] at hjudged
  exact hjudged

/-! ## The whole ingestion -/

/-- Once there is a catalog, validated settings leave it to the subtitles whether the ingestion
fails. -/
theorem run_outcome (hvalidated : settings.IsValidated) {world probed : World σ}
    {report : ProbeReport} {catalog : Catalog}
    (hprobe : tools.probe media world = (.ok report, probed))
    (hcatalog : Catalog.ofReport report = .ok catalog) :
    ∃ video audio, settings.video.select catalog.video = .ok video ∧
      settings.audio.select catalog.audio = .ok audio ∧
      (run tools settings media world).1.outcome =
        (subtitles tools settings media catalog.subtitle probed).1.map (Selection.mk video audio) := by
  obtain ⟨video, hvideo, -⟩ := Chain.select_ok hvalidated.video_rules catalog.video
  obtain ⟨audio, haudio, -⟩ := Chain.select_ok hvalidated.audio_rules catalog.audio
  refine ⟨video, audio, hvideo, haudio, ?_⟩
  unfold run
  simp only [hprobe, hcatalog, hvideo, haudio]
  generalize subtitles tools settings media catalog.subtitle probed = result
  obtain ⟨outcome, searched, after⟩ := result
  cases outcome with
  | error fault => rfl
  | ok subtitle => rfl

/-- **Exactly which ingestions fail.** Let the settings be validated, the tools report failed
extractions as such and all that is written be written. Then an ingestion fails if the media file
cannot be probed, if its report makes no catalog, or if no subtitle is left of some candidates
after a failure of a search or of caption making, the last of which it fails with; in all other
cases it succeeds, and its subtitles are what was picked without the tracks that were dropped. -/
theorem run_error_iff (hvalidated : settings.IsValidated) (hreports : tools.Reports media)
    (world : World σ) (hwrites : WritesSucceed tools settings media world) :
    (∀ fault, (run tools settings media world).1.outcome = .error fault ↔
      FailsWith tools settings media world fault) ∧
    ∀ selection, (run tools settings media world).1.outcome = .ok selection →
      ∃ report probed catalog, tools.probe media world = (.ok report, probed) ∧
        Catalog.ofReport report = .ok catalog ∧
        selection.subtitle =
          (account tools settings media catalog.subtitle probed).kept settings media := by
  generalize hprobe : tools.probe media world = result
  obtain ⟨answer, probed⟩ := result
  cases answer with
  | error cause =>
    have hrun : (run tools settings media world).1.outcome = .error cause := by
      simp only [run, hprobe]
    rw [hrun]
    exact ⟨fun fault => by rw [FailsWith.iff_of_unprobed hprobe, Except.error.injEq], by simp⟩
  | ok report =>
    cases hcatalog : Catalog.ofReport report with
    | error cause =>
      have hrun : (run tools settings media world).1.outcome = .error cause := by
        simp only [run, hprobe, hcatalog]
      rw [hrun]
      exact ⟨fun fault => by rw [FailsWith.iff_of_rejected hprobe hcatalog, Except.error.injEq],
        by simp⟩
    | ok catalog =>
      obtain ⟨video, audio, -, -, hrun⟩ := run_outcome hvalidated hprobe hcatalog
      obtain ⟨hfails, hkept⟩ := subtitles_outcome hreports (Catalog.subtitle_nodup hcatalog)
        (hwrites report probed catalog hprobe hcatalog)
      rw [hrun]
      refine ⟨fun fault => ?_, fun selection h => ?_⟩
      · rw [FailsWith.iff_of_listed hprobe hcatalog, ← hfails fault]
        cases (subtitles tools settings media catalog.subtitle probed).1 <;> simp [Except.map]
      · cases hsubtitles : (subtitles tools settings media catalog.subtitle probed).1 with
        | error cause => simp [hsubtitles, Except.map] at h
        | ok kept =>
          rw [hsubtitles, Except.map, Except.ok.injEq] at h
          refine ⟨report, probed, catalog, rfl, hcatalog, ?_⟩
          rw [← h, hkept kept hsubtitles]

/-- A film with a picture and two English bitmap subtitles. -/
def bitmapReport : ProbeReport where
  streams := some
    [{ index := some 0, codecType := some "video", codec := some "h264" },
      { index := some 2, codecType := some "subtitle", codec := some "xsub",
        tags := [("language", .string "eng")] },
      { index := some 3, codecType := some "subtitle", codec := some "xsub",
        tags := [("language", .string "eng")] }]

/-- The subtitles of that film. -/
def bitmapSubtitles : List Track :=
  [{ index := 2, kind := .subtitle, codec := "xsub", language := some "eng" },
    { index := 3, kind := .subtitle, codec := "xsub", language := some "eng" }]

theorem ofReport_bitmapReport : Catalog.ofReport bitmapReport =
    .ok ⟨[{ index := 0, kind := .video, codec := "h264" }], [], bitmapSubtitles⟩ :=
  rfl

/-- No dump can be had of the first subtitle, and the dump of the second is empty. -/
def uselessDumps : Answers where
  probe := .ok bitmapReport
  transcript track := .error (.extraction track "no text")
  ocr track := if track = 2 then .error (.extraction 2 "no picture") else .ok ""

/-- The first subtitle fails in the search as well as in caption making, but the second fails last,
and nothing is written. -/
theorem run_error_iff_uselessDumps :
    Settings.default.IsValidated ∧ (Toolbox.scripted uselessDumps).Reports "film.mkv" ∧
      WritesSucceed (.scripted uselessDumps) .default "film.mkv" ⟨.fresh, []⟩ ∧
      (run (.scripted uselessDumps) .default "film.mkv" ⟨.fresh, []⟩).1.outcome =
        .error (.extraction 3 "OCR produced no captions") := by
  have hvalidated : Settings.default.IsValidated := Or.inl rfl
  have hreports : (Toolbox.scripted uselessDumps).Reports "film.mkv" := by
    refine (Toolbox.scripted_answersBy uselessDumps "film.mkv").reports fun extraction fault h => ?_
    cases extraction with
    | transcript track format =>
      cases h
      rfl
    | ocr track =>
      by_cases htrack : track = 2
      · simp only [Answers.extract, uselessDumps, htrack, if_true, Except.error.injEq] at h
        subst h
        rfl
      · simp [Answers.extract, uselessDumps, htrack] at h
  have hcatalog : Catalog.ofReport bitmapReport =
      .ok ⟨[{ index := 0, kind := .video, codec := "h264" }], [], bitmapSubtitles⟩ := by
    rfl
  have hempty : OcrDump.cues "" = .ok [] := by cbv
  have hbitmap : ∀ index, Track.isImage Settings.default.imageCodecs
      { index, kind := .subtitle, codec := "xsub", language := some "eng" } = true :=
    fun index => by simp [Track.isImage, Settings.default, Settings.defaultImageCodecs]
  -- what is picked has no cue to be written, whatever the world is then
  have hstores : ∀ world, StoresSucceed (.scripted uselessDumps) .default "film.mkv" world
      bitmapSubtitles := by
    intro world
    simp only [StoresSucceed, bitmapSubtitles, hbitmap, if_true, and_true]
    refine ⟨fun dump cues after hextract => ?_, fun dump cues after hextract hcues hsome => ?_⟩
    · cases hextract
    · cases hextract
      exact absurd (Except.ok.inj (hempty.symm.trans hcues)).symm hsome
  have hwrites : WritesSucceed (.scripted uselessDumps) .default "film.mkv" ⟨.fresh, []⟩ := by
    intro report probed catalog hprobe hlisted picks after hselect
    cases hprobe
    cases hcatalog.symm.trans hlisted
    have hpicks : (RuleSet.select (.scripted uselessDumps) (searchSetting .default "film.mkv")
        Settings.default.subtitle bitmapSubtitles ⟨.fresh, [.probe]⟩).1 =
        .ok ⟨bitmapSubtitles, [.extraction 2 "no picture"], [bitmapSubtitles]⟩ := by
      cbv
    have heq := hpicks.symm.trans (congrArg Prod.fst hselect)
    rw [← Except.ok.inj heq]
    exact hstores after
  have htold : account (.scripted uselessDumps) .default "film.mkv" bitmapSubtitles
      ⟨.fresh, [.probe]⟩ = ⟨bitmapSubtitles,
        [⟨.ocr 2, .error (.extraction 2 "no picture")⟩, ⟨.ocr 3, .ok ""⟩],
        [⟨.ocr 2, .error (.extraction 2 "no picture")⟩, ⟨.ocr 3, .ok ""⟩]⟩ := by
    unfold account
    have hselect : RuleSet.select (Toolbox.scripted uselessDumps).recording
        (searchSetting .default "film.mkv") Settings.default.subtitle bitmapSubtitles
        (World.noting ⟨.fresh, [.probe]⟩ []) =
        (.ok ⟨bitmapSubtitles, [.extraction 2 "no picture"], [bitmapSubtitles]⟩,
          World.noting ⟨.fresh, [.extract (.ocr 3), .extract (.ocr 2), .probe]⟩
            [⟨.ocr 2, .error (.extraction 2 "no picture")⟩, ⟨.ocr 3, .ok ""⟩]) := by
      cbv
    rw [hselect]
    simp [bitmapSubtitles, captionAll, hbitmap, makeCaptions, Toolbox.extract, Toolbox.recording,
      Toolbox.scripted, uselessDumps, Answers.extract, World.noting, dropped?, hempty]
  refine ⟨hvalidated, hreports, hwrites, ?_⟩
  refine ((run_error_iff hvalidated hreports _ hwrites).1 _).2 (.subtitles rfl hcatalog ?_ ?_ ?_)
  · decide
  · refine (congrArg (Account.kept _ _) htold).trans ?_
    simp [Account.kept, captioned?, bitmapSubtitles, Answered.captionFailure?, hbitmap, hempty]
  · refine (congrArg (List.getLast? ∘ Account.failures) htold).trans ?_
    simp [Account.failures, Answered.captionFailure?, hempty, Extraction.track]

end TrackSelect.Ingest
