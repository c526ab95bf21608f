import TrackSelect.Proofs.Ingest.Failing
import TrackSelect.Proofs.Rule.PoolReordering

/-!
# Ingestions and the order of a report

Two ingestions of the same media file, whose reports have the same records in different orders,
with tools that answer by the same function. Every stage of the one goes like that of the other:
both fail, or both come to the same tracks up to their order (`Alike`). So the order of a report
does not decide what is kept (`run_reordered`).
-/

namespace TrackSelect

/-- Both fail, or both succeed with results that are related. -/
inductive Alike {ε α β : Type} (related : α → β → Prop) : Except ε α → Except ε β → Prop where
  | error (fault₁ fault₂ : ε) : Alike related (.error fault₁) (.error fault₂)
  | ok {a : α} {b : β} (h : related a b) : Alike related (.ok a) (.ok b)

namespace Alike

variable {ε α β : Type} {related : α → β → Prop} {first : Except ε α} {second : Except ε β}

/-- Outcomes that are alike succeed together. -/
theorem ok_iff (h : Alike related first second) :
    (∃ a, first = .ok a) ↔ ∃ b, second = .ok b := by
  cases h with
  | error fault₁ fault₂ => simp
  | ok hab => exact ⟨fun _ => ⟨_, rfl⟩, fun _ => ⟨_, rfl⟩⟩

/-- The results of outcomes that are alike are related. -/
theorem related_of_ok (h : Alike related first second) {a : α} {b : β} (ha : first = .ok a)
    (hb : second = .ok b) : related a b := by
  subst ha hb
  cases h with
  | ok hab => exact hab

/-- Outcomes are alike when they fail together and their results are related. -/
theorem of_error_iff (herror : (∃ fault, first = .error fault) ↔ ∃ fault, second = .error fault)
    (hok : ∀ a b, first = .ok a → second = .ok b → related a b) : Alike related first second := by
  cases first with
  | error fault₁ =>
    obtain ⟨fault₂, rfl⟩ := herror.1 ⟨fault₁, rfl⟩
    exact .error fault₁ fault₂
  | ok a =>
    cases second with
    | error fault₂ =>
      obtain ⟨fault₁, h⟩ := herror.2 ⟨fault₂, rfl⟩
      cases h
    | ok b => exact .ok (hok a b rfl rfl)

/-- Going on from related results to related results. -/
theorem map {α' β' : Type} {related' : α' → β' → Prop} {f : α → α'} {g : β → β'}
    (h : Alike related first second) (hmap : ∀ a b, related a b → related' (f a) (g b)) :
    Alike related' (first.map f) (second.map g) := by
  cases h with
  | error fault₁ fault₂ => exact .error fault₁ fault₂
  | ok hab => exact .ok (hmap _ _ hab)

end Alike

/-! ## Catalogs -/

/-- Reports with the same records in any order. -/
def ProbeReport.Reordered (report₁ report₂ : ProbeReport) : Prop :=
  Option.Rel List.Perm report₁.streams report₂.streams

/-- Catalogs with the same tracks of each kind in any order. -/
structure Catalog.Reordered (catalog₁ catalog₂ : Catalog) : Prop where
  video : catalog₁.video.Perm catalog₂.video
  audio : catalog₁.audio.Perm catalog₂.audio
  subtitle : catalog₁.subtitle.Perm catalog₂.subtitle

/-- Selections with the same tracks of each kind in any order. -/
structure Selection.Reordered (selection₁ selection₂ : Selection) : Prop where
  video : selection₁.video.Perm selection₂.video
  audio : selection₁.audio.Perm selection₂.audio
  subtitle : selection₁.subtitle.Perm selection₂.subtitle

/-- Records in another order make the same catalog up to the order of its tracks. -/
theorem Catalog.ofReport_alike {report₁ report₂ : ProbeReport} (h : report₁.Reordered report₂) :
    Alike Catalog.Reordered (ofReport report₁) (ofReport report₂) := by
  unfold ProbeReport.Reordered at h
  unfold ofReport
  generalize report₁.streams = streams₁ at h
  generalize report₂.streams = streams₂ at h
  cases h with
  | none => exact .error _ _
  | @some records₁ records₂ h =>
    cases h₁ : defect? 0 [] records₁ with
    | none =>
      simp only [h₁, defect?_perm h h₁]
      exact .ok ⟨tracksOf_perm .video h, tracksOf_perm .audio h, tracksOf_perm .subtitle h⟩
    | some defect₁ =>
      cases h₂ : defect? 0 [] records₂ with
      | none => simp [defect?_perm h.symm h₂] at h₁
      | some defect₂ =>
        simp only [h₁, h₂]
        exact .error _ _

namespace Ingest

/-! ## Subtitles -/

/-- The judgement on subtitles depends on what there is, and not on any order. -/
theorem fails_of_perm {candidates₁ candidates₂ kept₁ kept₂ : List Track}
    {failures₁ failures₂ : List Fault} (hcandidates : candidates₁.Perm candidates₂)
    (hkept : kept₁.Perm kept₂) (hfailures : failures₁.Perm failures₂) {fault : Fault}
    (h : candidates₁ ≠ [] ∧ kept₁ = [] ∧ failures₁.getLast? = some fault) :
    ∃ fault, candidates₂ ≠ [] ∧ kept₂ = [] ∧ failures₂.getLast? = some fault := by
  obtain ⟨hsome, hempty, hlast⟩ := h
  have hthere : failures₂ ≠ [] := by
    rintro rfl
    rw [hfailures.eq_nil] at hlast
    cases hlast
  refine ⟨failures₂.getLast hthere, ?_, ?_, List.getLast?_eq_some_getLast hthere⟩
  · rintro rfl
    exact hsome hcandidates.eq_nil
  · rw [hempty] at hkept
    exact hkept.symm.eq_nil

variable {σ₁ σ₂ : Type} {tools₁ : Toolbox σ₁} {tools₂ : Toolbox σ₂} {settings : Settings}
  {media : String} {answer : Extraction → Except Fault String}

/-- Subtitles come to the same tracks from candidates in every order. -/
theorem subtitles_alike (h₁ : tools₁.AnswersBy media answer) (h₂ : tools₂.AnswersBy media answer)
    (hanswer : ∀ extraction fault, answer extraction = .error fault → fault.isExtraction)
    {candidates₁ candidates₂ : List Track} (hperm : candidates₁.Perm candidates₂)
    (hdistinct : (candidates₁.map Track.index).Nodup) {world₁ : World σ₁} {world₂ : World σ₂}
    (hwrites₁ : CaptionsSucceed tools₁ settings media candidates₁ world₁)
    (hwrites₂ : CaptionsSucceed tools₂ settings media candidates₂ world₂) :
    Alike List.Perm (subtitles tools₁ settings media candidates₁ world₁).1
      (subtitles tools₂ settings media candidates₂ world₂).1 := by
  have hdistinct₂ := (hperm.map Track.index).nodup_iff.1 hdistinct
  obtain ⟨picks₁, after₁, hselect₁, -, hpart₁⟩ := RuleSet.select_subperm tools₁
    (searchSetting settings media) settings.subtitle world₁ hdistinct
  obtain ⟨picks₂, after₂, hselect₂, -, hpart₂⟩ := RuleSet.select_subperm tools₂
    (searchSetting settings media) settings.subtitle world₂ hdistinct₂
  have hpicks : picks₁.Reordered picks₂ :=
    RuleSet.select_perm (searchSetting settings media) h₁ h₂ hperm hselect₁ hselect₂
  -- what is judged in the end is the same up to its order
  have hjudged₁ := subtitles_judged hselect₁ (captionAll_answered settings media h₁ (h₁.reports hanswer)
    (RuleSet.nodup_of_subperm hpart₁ hdistinct) (hwrites₁ picks₁ after₁ hselect₁))
  have hjudged₂ := subtitles_judged hselect₂ (captionAll_answered settings media h₂ (h₂.reports hanswer)
    (RuleSet.nodup_of_subperm hpart₂ hdistinct₂) (hwrites₂ picks₂ after₂ hselect₂))
  obtain ⟨hkept, hfailures⟩ :=
    captionAnswers_perm settings media answer hpicks.selected
  have hall := hpicks.failures.append hfailures
  refine Alike.of_error_iff ⟨fun ⟨fault, h⟩ => ?_, fun ⟨fault, h⟩ => ?_⟩ fun kept₁ kept₂ hk₁ hk₂ => ?_
  · obtain ⟨fault₂, hfails⟩ := fails_of_perm hperm hkept hall ((hjudged₁.1 fault).1 h)
    exact ⟨fault₂, (hjudged₂.1 fault₂).2 hfails⟩
  · obtain ⟨fault₁, hfails⟩ :=
      fails_of_perm hperm.symm hkept.symm hall.symm ((hjudged₂.1 fault).1 h)
    exact ⟨fault₁, (hjudged₁.1 fault₁).2 hfails⟩
  · rw [hjudged₁.2 kept₁ hk₁, hjudged₂.2 kept₂ hk₂]
    exact hkept

/-! ## The whole ingestion -/

/-- Ingestions of reports with the same records are alike. -/
theorem run_alike (hvalidated : settings.IsValidated) (h₁ : tools₁.AnswersBy media answer)
    (h₂ : tools₂.AnswersBy media answer)
    (hanswer : ∀ extraction fault, answer extraction = .error fault → fault.isExtraction)
    {world₁ : World σ₁} {world₂ : World σ₂} {report₁ report₂ : ProbeReport}
    (hprobe₁ : (tools₁.probe media world₁).1 = .ok report₁)
    (hprobe₂ : (tools₂.probe media world₂).1 = .ok report₂) (hreports : report₁.Reordered report₂)
    (hwrites₁ : WritesSucceed tools₁ settings media world₁)
    (hwrites₂ : WritesSucceed tools₂ settings media world₂) :
    Alike Selection.Reordered (run tools₁ settings media world₁).1.outcome
      (run tools₂ settings media world₂).1.outcome := by
  generalize hprobed₁ : tools₁.probe media world₁ = result₁ at hprobe₁
  generalize hprobed₂ : tools₂.probe media world₂ = result₂ at hprobe₂
  obtain ⟨answer₁, probed₁⟩ := result₁
  obtain ⟨answer₂, probed₂⟩ := result₂
  subst hprobe₁ hprobe₂
  -- a defect of one report is one of the other too, though perhaps not the first one there
  have hcatalogs := Catalog.ofReport_alike hreports
  cases hcatalog₁ : Catalog.ofReport report₁ with
  | error fault₁ =>
    rw [hcatalog₁] at hcatalogs
    generalize hcatalog₂ : Catalog.ofReport report₂ = listed₂ at hcatalogs
    cases hcatalogs with
    | error _ fault₂ =>
      simp only [run, hprobed₁, hprobed₂, hcatalog₁, hcatalog₂]
      exact .error fault₁ fault₂
  | ok catalog₁ =>
    rw [hcatalog₁] at hcatalogs
    generalize hcatalog₂ : Catalog.ofReport report₂ = listed₂ at hcatalogs
    cases hcatalogs with
    | @ok _ catalog₂ hcatalog =>
      obtain ⟨video₁, audio₁, hvideo₁, haudio₁, hrun₁⟩ :=
        run_outcome hvalidated hprobed₁ hcatalog₁
      obtain ⟨video₂, audio₂, hvideo₂, haudio₂, hrun₂⟩ :=
        run_outcome hvalidated hprobed₂ hcatalog₂
      have hvideo : video₁.Perm video₂ :=
        Chain.select_perm hvalidated.video_rules hcatalog.video hvideo₁ hvideo₂
      have haudio : audio₁.Perm audio₂ :=
        Chain.select_perm hvalidated.audio_rules hcatalog.audio haudio₁ haudio₂
      have hsubtitle := subtitles_alike h₁ h₂ hanswer hcatalog.subtitle
        (Catalog.subtitle_nodup hcatalog₁)
        (hwrites₁ _ _ _ hprobed₁ hcatalog₁) (hwrites₂ _ _ _ hprobed₂ hcatalog₂)
      rw [hrun₁, hrun₂]
      exact hsubtitle.map fun _ _ hkept => ⟨hvideo, haudio, hkept⟩

/-- **The order of a report does not decide what is kept.** Let the settings be validated, let two
reports have the same records in any order, and let the tools of two ingestions answer by the same
function, report failed extractions as such and write all they write. Then the ingestions succeed
together, and select the same tracks of every kind, with the same caption files. -/
theorem run_reordered (hvalidated : settings.IsValidated) (h₁ : tools₁.AnswersBy media answer)
    (h₂ : tools₂.AnswersBy media answer)
    (hanswer : ∀ extraction fault, answer extraction = .error fault → fault.isExtraction)
    {world₁ : World σ₁} {world₂ : World σ₂} {report₁ report₂ : ProbeReport}
    (hprobe₁ : (tools₁.probe media world₁).1 = .ok report₁)
    (hprobe₂ : (tools₂.probe media world₂).1 = .ok report₂) (hreports : report₁.Reordered report₂)
    (hwrites₁ : WritesSucceed tools₁ settings media world₁)
    (hwrites₂ : WritesSucceed tools₂ settings media world₂) :
    ((∃ selection, (run tools₁ settings media world₁).1.outcome = .ok selection) ↔
      ∃ selection, (run tools₂ settings media world₂).1.outcome = .ok selection) ∧
    ∀ selection₁ selection₂, (run tools₁ settings media world₁).1.outcome = .ok selection₁ →
      (run tools₂ settings media world₂).1.outcome = .ok selection₂ →
      selection₁.Reordered selection₂ := by
  have halike :=
    run_alike hvalidated h₁ h₂ hanswer hprobe₁ hprobe₂ hreports hwrites₁ hwrites₂
  exact ⟨halike.ok_iff, fun _ _ => halike.related_of_ok⟩

/-- Two pictures and two subtitles, the second of which is an English bitmap subtitle. -/
def mixedRecords : List StreamRecord :=
  [{ index := some 0, codecType := some "video", codec := some "h264", width := some 720 },
    { index := some 1, codecType := some "video", codec := some "h264", width := some 1920 },
    { index := some 3, codecType := some "subtitle", codec := some "subrip" },
    { index := some 2, codecType := some "subtitle", codec := some "xsub",
      tags := [("language", .string "eng")] }]

/-- A dump with one cue. -/
def oneCueDump : String :=
  "frame:0 pts_time:1\nlavfi.ocr.text=A\nframe:1 pts_time:2\nlavfi.ocr.text="

/-- Answers for some records: every dump has one cue. -/
def oneCueAnswers (records : List StreamRecord) : Answers where
  probe := .ok ⟨some records⟩
  transcript track := .error (.extraction track "no text")
  ocr _ := .ok oneCueDump

/-- The subtitles of these records, as they are picked. -/
def mixedSubtitles : List Track :=
  [{ index := 2, kind := .subtitle, codec := "xsub", language := some "eng" },
    { index := 3, kind := .subtitle, codec := "subrip" }]

/-- In both orders of the records a caption file is made and the same tracks are kept. -/
theorem run_reordered_mixedRecords : ∃ selection₁ selection₂,
    (run (.scripted (oneCueAnswers mixedRecords)) .default "a" ⟨.fresh, []⟩).1.outcome =
        .ok selection₁ ∧
      (run (.scripted (oneCueAnswers mixedRecords.reverse)) .default "a" ⟨.fresh, []⟩).1.outcome =
        .ok selection₂ ∧
      selection₁.Reordered selection₂ := by
  have hanswer : ∀ extraction fault,
      (oneCueAnswers mixedRecords).extract extraction = .error fault → fault.isExtraction := by
    intro extraction fault h
    cases extraction with
    | transcript track format =>
      cases h
      rfl
    | ocr track => cases h
  have hperm : ProbeReport.Reordered ⟨some mixedRecords⟩ ⟨some mixedRecords.reverse⟩ :=
    .some (List.reverse_perm mixedRecords).symm
  -- one caption file is written, on a fresh disk
  have hcues : OcrDump.cues oneCueDump = .ok [⟨1, ⟨1000⟩, ⟨2000⟩, ["A"]⟩] := by decide +kernel
  have hstore : (storeCaptions .default "a" 2 [⟨1, ⟨1000⟩, ⟨2000⟩, ["A"]⟩] .fresh).1 = .ok () := by
    decide +kernel
  have hwrites : ∀ records candidates, Catalog.tracksOf .subtitle records = candidates →
      RuleSet.select (.scripted (oneCueAnswers records)) (searchSetting .default "a")
        Settings.default.subtitle candidates ⟨.fresh, [.probe]⟩ =
          (.ok ⟨mixedSubtitles, [], []⟩, ⟨.fresh, [.probe]⟩) →
      WritesSucceed (.scripted (oneCueAnswers records)) .default "a" ⟨.fresh, []⟩ := by
    intro records candidates hcandidates hselect report probed catalog hprobe hlisted picks after
      hselect'
    cases hprobe
    obtain ⟨listed, hstreams, -, rfl⟩ := Catalog.ofReport_ok_iff.1 hlisted
    cases hstreams
    subst hcandidates
    cases hselect.symm.trans hselect'
    have hbitmap : mixedSubtitles.map (·.isImage Settings.default.imageCodecs) = [true, false] := by
      decide
    simp only [mixedSubtitles, List.map_cons, List.cons.injEq] at hbitmap
    simp only [StoresSucceed, mixedSubtitles, hbitmap, if_true, and_true]
    refine ⟨fun dump cues after hextract hdump _ => ?_, by simp⟩
    cases hextract
    cases hcues.symm.trans hdump
    exact hstore
  obtain ⟨hiff, hsame⟩ := run_reordered (Or.inl rfl)
    (Toolbox.scripted_answersBy (oneCueAnswers mixedRecords) "a")
    (Toolbox.scripted_answersBy (oneCueAnswers mixedRecords.reverse) "a") hanswer rfl rfl hperm
    (hwrites mixedRecords mixedSubtitles.reverse rfl (by cbv))
    (hwrites mixedRecords.reverse mixedSubtitles rfl (by cbv))
  have hsome : (run (.scripted (oneCueAnswers mixedRecords)) .default "a"
      ⟨.fresh, []⟩).1.outcome.toOption.isSome := by
    decide +kernel
  cases hrun₁ : (run (.scripted (oneCueAnswers mixedRecords)) .default "a"
      ⟨.fresh, []⟩).1.outcome with
  | error fault => simp [hrun₁, Except.toOption] at hsome
  | ok selection₁ =>
    obtain ⟨selection₂, hrun₂⟩ := hiff.1 ⟨selection₁, hrun₁⟩
    exact ⟨selection₁, selection₂, rfl, hrun₂, hsame selection₁ selection₂ hrun₁ hrun₂⟩

end Ingest

end TrackSelect
