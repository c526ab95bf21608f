import TrackSelect.Proofs.Ingest.CaptionRun
import TrackSelect.Proofs.Ingest.Failing
import TrackSelect.Proofs.OcrDump.Faults
import TrackSelect.Proofs.Rule.Pool
import TrackSelect.Proofs.Settings.Validated
import TrackSelect.Proofs.Toolbox.Reporting

/-!
# What an ingestion can fail with

A fault of an ingestion is one of its tools, or one of the few kinds it comes to by itself
(`Fault.isOwn`): the report is unfit, the text of a track is of no use, or the disk does not do as
it is told. The rules are not among these. Validation keeps the one rule that cannot be applied out
of the chains for video and audio, and a rule-set never applies it but searches (`run_rules`).

The faults are followed through every stage for an arbitrary set of `allowed` ones, which need only
have those of the tools and the own ones in it (`run_fault`).
-/

namespace TrackSelect

/-- The faults that an ingestion comes to by itself, whatever its tools do. -/
def Fault.isOwn : Fault → Bool
  | malformedReport _ | extraction .. | system _ | unusablePath => true
  | _ => false

/-- What the disk refuses is an own fault. -/
theorem Fault.isOwn_of_isOfDisk {fault : Fault} (h : fault.isOfDisk = true) :
    fault.isOwn = true := by
  cases fault <;> first | rfl | cases h

section

variable {σ : Type} {tools : Toolbox σ} {allowed : Fault → Prop}

/-! ## Searches -/

namespace ForeignAudio

variable {setting : Setting}

/-- A text that has no number of cues is of no use. -/
theorem cueCount_error {extraction : Extraction} {text : String} {fault : Fault}
    (h : cueCount extraction text = .error fault) : fault.isOwn = true := by
  unfold cueCount at h
  split at h
  · cases h
  · split at h
    · cases h
    · cases h
      rfl

/-- What is answered for a track was answered by the tools at some time. -/
theorem mem_answered {entry : Track × Except Fault String} (pools : List (List Track)) :
    ∀ world : World σ, entry ∈ answered setting tools world pools → ∃ extractions before,
      entry.2 ∈ (tools.extractAll setting.media extractions before).1 := by
  induction pools with
  | nil => exact fun world h => absurd h List.not_mem_nil
  | cons batch rest ih =>
    intro world h
    rw [answered] at h
    rcases List.mem_append.1 h with hbatch | hrest
    · exact ⟨_, world, (List.of_mem_zip hbatch).2⟩
    · exact ih _ hrest

/-- The failures of a search are allowed. -/
theorem search_failures (htools : tools.FailsWith setting.media allowed)
    (hown : ∀ fault : Fault, fault.isOwn = true → allowed fault) (pool : List Track)
    (world : World σ) : ∀ fault ∈ (search tools setting pool world).1.failures, allowed fault := by
  intro fault hfault
  rw [search_eq] at hfault
  obtain ⟨⟨track, answer⟩, hentry, hfailure⟩ := List.mem_filterMap.1 hfault
  obtain ⟨extractions, before, hanswer⟩ := mem_answered _ _ hentry
  unfold uncounted? at hfailure
  cases answer with
  | error cause =>
    have hcause : cause = fault := by simpa [Except.bind] using hfailure
    exact htools.extractAll extractions before fault (hcause ▸ hanswer)
  | ok text =>
    -- there is a text, so it must be its cues that cannot be told
    simp only [Except.bind] at hfailure
    split at hfailure
    · cases hfailure
    · next cause hcause =>
      cases hfailure
      exact hown fault (cueCount_error hcause)

end ForeignAudio

/-! ## Rule-sets -/

namespace RuleSet

variable {setting : ForeignAudio.Setting}

/-- A rule-set has no failures but those of its searches. -/
theorem narrow_failures
    (hsearch : ∀ pool world, ∀ fault ∈ (ForeignAudio.search tools setting pool world).1.failures,
      allowed fault) (rules : List Rule) {picks after : Picks} {world last : World σ}
    {pool picked : List Track}
    (h : narrow tools setting picks world rules pool = (.ok (picked, after), last))
    (hpicks : ∀ fault ∈ picks.failures, allowed fault) :
    ∀ fault ∈ after.failures, allowed fault := by
  induction picks, world, rules, pool using narrow_induction tools setting with
  | done picks world rules pool hdone =>
    rw [narrow_of_isDone hdone] at h
    cases h
    exact hpicks
  | search picks world rules pool hopen ih =>
    rw [narrow_of_search tools setting picks world hopen] at h
    refine ih h fun fault hfault => ?_
    rw [Picks.afterSearch_failures] at hfault
    rcases List.mem_append.1 hfault with hbefore | hnow
    · exact hpicks fault hbefore
    · exact hsearch pool world fault hnow
  | apply picks world rule rules pool kept hrule hopen hkept ih =>
    rw [narrow_of_apply tools setting picks world hrule hopen hkept] at h
    exact ih h hpicks

/-- Nor have several rule-sets. -/
theorem run_failures
    (hsearch : ∀ pool world, ∀ fault ∈ (ForeignAudio.search tools setting pool world).1.failures,
      allowed fault) (sets : List RuleSet) {picks after : Picks} {world last : World σ}
    {pool : List Track} (h : run tools setting picks world sets pool = (.ok after, last))
    (hpicks : ∀ fault ∈ picks.failures, allowed fault) :
    ∀ fault ∈ after.failures, allowed fault := by
  induction picks, world, sets, pool using run_induction tools setting with
  | done picks world sets pool hover =>
    rw [run_of_isOver hover] at h
    cases h
    exact hpicks
  | turn picks world set sets pool picked between now hpool hnarrow ih =>
    rw [run_of_narrow tools setting picks world hpool hnarrow] at h
    have hbetween := narrow_failures hsearch set.rules hnarrow hpicks
    exact ih h hbetween

end RuleSet

/-! ## Caption making -/

namespace Ingest

variable {settings : Settings} {media : String}

/-- A single extraction fails with a fault of the tools, or it has no answer at all. -/
theorem extract_fault (htools : tools.FailsWith media allowed)
    (hown : ∀ fault : Fault, fault.isOwn = true → allowed fault) {extraction : Extraction}
    {world : World σ} {fault : Fault}
    (h : (tools.extract media extraction world).1 = .error fault) : allowed fault := by
  unfold Toolbox.extract at h
  split at h
  · next answer rest after hall =>
    refine htools.extractAll [extraction] world fault ?_
    rw [hall, ← h]
    exact List.mem_cons_self
  · cases h
    exact hown _ rfl

/-- A caption file that is not made fails with an allowed fault, unless it is one for the track to
be dropped. -/
theorem makeCaptions_fault (htools : tools.FailsWith media allowed)
    (hown : ∀ fault : Fault, fault.isOwn = true → allowed fault) {track : Nat}
    {world last : World σ} {fault : Fault}
    (h : makeCaptions tools settings media track world = (.error fault, last)) :
    allowed fault ∨ (dropped? track fault).isSome := by
  unfold makeCaptions at h
  split at h
  · next hextract =>
    cases h
    exact .inl (extract_fault htools hown (congrArg Prod.fst hextract))
  · split at h
    · next cause hcues =>
      cases h
      -- a malformed frame is not allowed as it is, but it costs the track only
      obtain ⟨line, reason, rfl⟩ := OcrDump.cues_error hcues
      exact .inr rfl
    · cases h
      exact .inl (hown _ rfl)
    · split at h
      · next cause disk hstore =>
        cases h
        exact .inl (hown _ (Fault.isOwn_of_isOfDisk (isOfDisk_of_storeCaptions hstore)))
      · cases h

/-- What is kept of a dropped track is the failure of an extraction. -/
theorem isOwn_of_dropped? {track : Nat} {fault failure : Fault}
    (h : dropped? track fault = some failure) : failure.isOwn = true := by
  cases fault <;> first | cases h; rfl | cases h

/-- Caption making fails with allowed faults only, and the failures it keeps are allowed too. -/
theorem captionAll_faults (htools : tools.FailsWith media allowed)
    (hown : ∀ fault : Fault, fault.isOwn = true → allowed fault) (tracks : List Track) :
    ∀ {sofar : Captioned} {world : World σ}, (∀ fault ∈ sofar.failures, allowed fault) →
      (∀ fault, (captionAll tools settings media sofar world tracks).1 = .error fault →
        allowed fault) ∧
      ∀ captioned, (captionAll tools settings media sofar world tracks).1 = .ok captioned →
        ∀ fault ∈ captioned.failures, allowed fault := by
  induction tracks with
  | nil =>
    intro sofar world hsofar
    refine ⟨fun fault h => ?_, fun captioned h => ?_⟩
    · cases h
    · cases h
      exact hsofar
  | cons track rest ih =>
    intro sofar world hsofar
    by_cases himage : track.isImage settings.imageCodecs = true
    · cases hmade : makeCaptions tools settings media track.index world with
      | mk outcome after =>
      cases outcome with
      | ok path =>
        simp only [captionAll, himage, hmade, Bool.not_true, Bool.false_eq_true, if_false]
        exact ih hsofar
      | error fault =>
        cases hdropped : dropped? track.index fault with
        | none =>
          simp only [captionAll, himage, hmade, hdropped, Bool.not_true, Bool.false_eq_true,
            if_false]
          refine ⟨fun cause h => ?_, fun captioned h => ?_⟩
          · cases h
            rcases makeCaptions_fault htools hown hmade with hallowed | hdrop
            · exact hallowed
            · rw [hdropped] at hdrop
              cases hdrop
          · cases h
        | some failure =>
          simp only [captionAll, himage, hmade, hdropped, Bool.not_true, Bool.false_eq_true,
            if_false]
          refine ih fun cause hcause => ?_
          rcases List.mem_append.1 hcause with hbefore | hnow
          · exact hsofar cause hbefore
          · rw [List.mem_singleton.1 hnow]
            exact hown failure (isOwn_of_dropped? hdropped)
    · rw [Bool.not_eq_true] at himage
      simp only [captionAll, himage, Bool.not_false, if_true]
      exact ih hsofar

/-! ## The whole ingestion -/

/-- Subtitles fail with allowed faults only. -/
theorem subtitles_fault (htools : tools.FailsWith media allowed)
    (hown : ∀ fault : Fault, fault.isOwn = true → allowed fault) {candidates : List Track}
    {world : World σ} {fault : Fault}
    (h : (subtitles tools settings media candidates world).1 = .error fault) : allowed fault := by
  have hsearch : ∀ pool world, ∀ cause ∈ (ForeignAudio.search tools (searchSetting settings media)
      pool world).1.failures, allowed cause :=
    fun pool world => ForeignAudio.search_failures htools hown pool world
  obtain ⟨picks, after, hselect, -, -⟩ := RuleSet.run_picks tools (searchSetting settings media)
    settings.subtitle {} world candidates
  have hpicks := RuleSet.run_failures hsearch settings.subtitle hselect (by simp)
  obtain ⟨hfails, hkeeps⟩ :
      (∀ cause, (captionAll tools settings media {} after picks.selected).1 = .error cause →
        allowed cause) ∧
      ∀ captioned, (captionAll tools settings media {} after picks.selected).1 = .ok captioned →
        ∀ cause ∈ captioned.failures, allowed cause :=
    captionAll_faults htools hown picks.selected (by simp)
  unfold subtitles RuleSet.select at h
  simp only [hselect] at h
  generalize captionAll tools settings media {} after picks.selected = made at h hfails hkeeps
  obtain ⟨outcome, last⟩ := made
  cases outcome with
  | error cause =>
    cases h
    exact hfails fault rfl
  | ok captioned =>
    simp only at h
    split at h
    · next failure hlast =>
      split_ifs at h
      -- the last failure was kept in one of the two stages
      cases h
      rcases List.mem_append.1 (List.mem_of_getLast? hlast) with hsearched | hcaptioned
      · exact hpicks fault hsearched
      · exact hkeeps captioned rfl fault hcaptioned
    · cases h

/-- A report that is no catalog is unfit. -/
theorem isOwn_of_ofReport {report : ProbeReport} {fault : Fault}
    (h : Catalog.ofReport report = .error fault) : fault.isOwn = true := by
  unfold Catalog.ofReport at h
  split at h
  · cases h
    rfl
  · split at h
    · cases h
      rfl
    · cases h

/-- **Where the fault of an ingestion comes from.** With validated settings it is one of the tools,
or an own one. -/
theorem run_fault (hvalidated : settings.IsValidated) (htools : tools.FailsWith media allowed)
    (hown : ∀ fault : Fault, fault.isOwn = true → allowed fault) {world : World σ} {fault : Fault}
    (h : (run tools settings media world).1.outcome = .error fault) : allowed fault := by
  cases hprobe : tools.probe media world with
  | mk answer probed =>
    cases answer with
    | error cause =>
      simp only [run, hprobe, Except.error.injEq] at h
      exact h ▸ htools.probe world cause (congrArg Prod.fst hprobe)
    | ok report =>
      cases hcatalog : Catalog.ofReport report with
      | error cause =>
        simp only [run, hprobe, hcatalog, Except.error.injEq] at h
        exact h ▸ hown cause (isOwn_of_ofReport hcatalog)
      | ok catalog =>
        obtain ⟨video, hvideo, -⟩ := Chain.select_ok hvalidated.video_rules catalog.video
        obtain ⟨audio, haudio, -⟩ := Chain.select_ok hvalidated.audio_rules catalog.audio
        have hsubtitles : (subtitles tools settings media catalog.subtitle probed).1 =
            .error fault → allowed fault := subtitles_fault htools hown
        simp only [run, hprobe, hcatalog, hvideo, haudio] at h
        generalize subtitles tools settings media catalog.subtitle probed = result at h hsubtitles
        obtain ⟨outcome, searched, last⟩ := result
        cases outcome with
        | error cause =>
          cases h
          exact hsubtitles rfl
        | ok subtitle => cases h

/-- **No ingestion fails for its rules**, if the settings are validated and no tool complains of
rules by itself. Whatever candidates a rule of the chains for video and audio is applied to, it can be
applied, and so the chains come to a selection. A rule-set comes to a pick of every pool: where its
next rule is a search, it searches. -/
theorem run_rules (hvalidated : settings.IsValidated)
    (htools : tools.FailsWith media fun fault => ∀ kind value, fault ≠ .invalidRule kind value) :
    (∀ world kind value,
      (run tools settings media world).1.outcome ≠ .error (.invalidRule kind value)) ∧
    (∀ chain ∈ [settings.video, settings.audio], ∀ tracks,
      (∀ rule ∈ chain.rules, ∃ kept, rule.apply chain.kind tracks = .ok kept) ∧
        ∃ kept, chain.select tracks = .ok kept) ∧
    ∀ set ∈ settings.subtitle, ∀ picks world pool, ∃ picked after last,
      RuleSet.narrow tools (searchSetting settings media) picks world set.rules pool =
        (.ok (picked, after), last) := by
  have hchains : ∀ chain ∈ [settings.video, settings.audio], .foreignAudio ∉ chain.rules := by
    intro chain hchain
    rcases List.mem_pair.1 hchain with rfl | rfl
    · exact hvalidated.video_rules
    · exact hvalidated.audio_rules
  refine ⟨fun world kind value h => ?_, fun chain hchain tracks => ⟨fun rule hrule => ?_, ?_⟩, ?_⟩
  · refine run_fault hvalidated htools (fun fault hown kind' value' heq => ?_) h kind value rfl
    subst heq
    cases hown
  · have hne : rule ≠ .foreignAudio := fun heq => hchains chain hchain (heq ▸ hrule)
    obtain ⟨kept, hkept, -⟩ := Rule.apply_ok hne chain.kind tracks
    exact ⟨kept, hkept⟩
  · obtain ⟨kept, hkept, -⟩ := Chain.select_ok (hchains chain hchain) tracks
    exact ⟨kept, hkept⟩
  · intro set _ picks world pool
    obtain ⟨picked, after, last, hnarrow, -⟩ := RuleSet.narrow_picks tools
      (searchSetting settings media) set.rules picks world pool
    exact ⟨picked, after, last, hnarrow⟩

/-- No dump comes in time. -/
def slowDumps : Answers where
  probe := .ok bitmapReport
  transcript track := .error (.extraction track "no text")
  ocr _ := .error (.timedOut "ffmpeg" 43200)

/-- With the rules of the file to start from, both bitmaps are searched for foreign audio in vain.
The ingestion fails for the tools in the end, and not for the rule of that search. -/
theorem run_rules_slowDumps :
    ∃ settings, SettingsFile.initial.settings = .ok settings ∧
      (run (.scripted slowDumps) settings "film.mkv" ⟨.fresh, []⟩).1.outcome =
        .error (.timedOut "ffmpeg" 43200) ∧
      ∀ kind value, (run (.scripted slowDumps) settings "film.mkv" ⟨.fresh, []⟩).1.outcome ≠
        .error (.invalidRule kind value) := by
  obtain ⟨settings, hsettings⟩ : ∃ settings, SettingsFile.initial.settings = .ok settings :=
    ⟨_, rfl⟩
  have htools : (Toolbox.scripted slowDumps).FailsWith "film.mkv"
      fun fault => ∀ kind value, fault ≠ .invalidRule kind value := by
    refine Toolbox.scripted_failsWith "film.mkv" (fun fault h => ?_) fun extraction fault h => ?_
    · cases h
    · cases extraction <;> cases h <;> simp
  refine ⟨settings, hsettings, ?_, fun kind value => ?_⟩
  · cases hsettings
    simp only [run, Toolbox.scripted, slowDumps, ofReport_bitmapReport]
    cbv
  · exact (run_rules (Or.inr ⟨_, hsettings⟩) htools).1 ⟨.fresh, []⟩ kind value

end Ingest

end

end TrackSelect
