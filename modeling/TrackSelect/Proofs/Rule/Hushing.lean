import TrackSelect.Proofs.ForeignAudio.Reordering
import TrackSelect.Proofs.ForeignAudio.Silence
import TrackSelect.Proofs.Rule.Pool
import TrackSelect.Proofs.Rule.Recorded
import TrackSelect.Proofs.SubRip.Samples

/-!
# Failures as silence

A track without a usable text has the same part in a search as a silent one: neither is picked, and
neither is the densest. So nothing changes for a selection when every failure becomes the empty
text, except that there are no failures any more (`RuleSet.select_hushed`).

The two runs are followed side by side. Their tools may be of different kinds and need not answer
by a function: it is enough that the worlds of both stay in some relation in which the one tools
answer like the others, up to hushed failures (`Toolbox.HushedBy`).
-/

namespace TrackSelect

/-! ## Hushed tools -/

/-- The same answer, or the empty text for a failure. -/
def Answered.hushed (told : Answered) : Answered :=
  { told with answer := if told.searchFailure?.isSome then .ok "" else told.answer }

@[simp] theorem Answered.hushed_extraction (told : Answered) :
    told.hushed.extraction = told.extraction := rfl

variable {σ τ : Type}

/-- A world and a list of answers beside it can be told apart again. -/
theorem World.noting_inj {world now : World σ} {log told : List Answered} :
    world.noting log = now.noting told ↔ world = now ∧ log = told := by
  obtain ⟨disk, memory⟩ := world
  obtain ⟨disk', memory'⟩ := now
  simp [World.noting, and_assoc]

/-- Tools that answer like others, but with the empty text where these fail. -/
structure Toolbox.HushedBy (loud : Toolbox σ) (quiet : Toolbox τ) (media : String)
    (related : World σ → World τ → Prop) : Prop where
  answers : ∀ extractions {world world'}, related world world' →
    (quiet.extractAll media extractions world').1 =
      extractions.zipWith (fun extraction answer => (Answered.hushed ⟨extraction, answer⟩).answer)
        (loud.extractAll media extractions world).1
  stays : ∀ extractions {world world'}, related world world' →
    related (loud.extractAll media extractions world).2
      (quiet.extractAll media extractions world').2

namespace Toolbox

variable {loud : Toolbox σ} {quiet : Toolbox τ} {media : String}
  {related : World σ → World τ → Prop}

/-- The same tools with every failure hushed. -/
def hushed (tools : Toolbox σ) : Toolbox σ where
  probe := tools.probe
  extractAll media extractions world :=
    let (answers, after) := tools.extractAll media extractions world
    (extractions.zipWith (fun extraction answer => (Answered.hushed ⟨extraction, answer⟩).answer)
      answers, after)

/-- Any tools can be hushed; the worlds are the same all the time then. -/
theorem hushedBy_hushed (tools : Toolbox σ) (media : String) :
    tools.HushedBy tools.hushed media (· = ·) where
  answers extractions {world world'} hworld := by
    rw [hworld]
    rfl
  stays extractions {world world'} hworld := by
    rw [hworld]
    rfl

theorem zipWith_hushed (extractions : List Extraction) (answers : List (Except Fault String)) :
    extractions.zipWith Answered.mk (extractions.zipWith
      (fun extraction answer => (Answered.hushed ⟨extraction, answer⟩).answer) answers) =
      (extractions.zipWith Answered.mk answers).map Answered.hushed := by
  induction extractions generalizing answers with
  | nil => rfl
  | cons extraction rest ih =>
    cases answers with
    | nil => rfl
    | cons answer answers =>
      simp only [List.zipWith_cons_cons, List.map_cons, ih]
      rfl

/-- Worlds that are related, with lists of answers of which one is that of the other, hushed. -/
def Noted (related : World σ → World τ → Prop) (world : World (σ × List Answered))
    (world' : World (τ × List Answered)) : Prop :=
  ∃ now now' log, related now now' ∧ world = now.noting log ∧
    world' = now'.noting (log.map Answered.hushed)

/-- Recording hushed tools is hushing the record. -/
theorem HushedBy.recording (h : loud.HushedBy quiet media related) :
    loud.recording.HushedBy quiet.recording media (Noted related) where
  answers extractions {world world'} hworld := by
    obtain ⟨now, now', log, hnow, rfl, rfl⟩ := hworld
    exact h.answers extractions hnow
  stays extractions {world world'} hworld := by
    obtain ⟨now, now', log, hnow, rfl, rfl⟩ := hworld
    refine ⟨_, _, log ++ extractions.zipWith Answered.mk (loud.extractAll media extractions now).1,
      h.stays extractions hnow, rfl, ?_⟩
    rw [recording_extractAll, h.answers extractions hnow, zipWith_hushed, List.map_append]

end Toolbox

/-! ## Searches -/

namespace ForeignAudio

variable {loud : Toolbox σ} {quiet : Toolbox τ} {setting : Setting}
  {related : World σ → World τ → Prop}

/-- What is answered for a track, hushed. -/
def hush (setting : Setting) (entry : Track × Except Fault String) :
    Track × Except Fault String :=
  (entry.1, (toAnswered setting entry).hushed.answer)

/-- A batch under hushed tools. -/
theorem zip_hushed (batch : List Track) (answers : List (Except Fault String)) :
    batch.zip ((batch.map (extraction setting)).zipWith
      (fun extraction answer => (Answered.hushed ⟨extraction, answer⟩).answer) answers) =
      (batch.zip answers).map (hush setting) := by
  induction batch generalizing answers with
  | nil => rfl
  | cons track rest ih =>
    cases answers with
    | nil => rfl
    | cons answer answers =>
      simp only [List.map_cons, List.zipWith_cons_cons, List.zip_cons_cons, ih]
      rfl

/-- All batches under hushed tools. -/
theorem answered_hushed (h : loud.HushedBy quiet setting.media related) (pools : List (List Track)) :
    ∀ {world : World σ} {world' : World τ}, related world world' →
      answered setting quiet world' pools =
        (answered setting loud world pools).map (hush setting) := by
  induction pools with
  | nil => exact fun _ => rfl
  | cons batch rest ih =>
    intro world world' hworld
    simp only [answered, h.answers _ hworld, zip_hushed, List.map_append]
    rw [ih (h.stays _ hworld)]

/-- The worlds stay related, whatever the tallies are. -/
theorem countBatches_related (h : loud.HushedBy quiet setting.media related)
    (pools : List (List Track)) :
    ∀ {tally tally' : Tally} {world : World σ} {world' : World τ}, related world world' →
      related (countBatches loud setting tally world pools).2
        (countBatches quiet setting tally' world' pools).2 := by
  induction pools with
  | nil => exact fun hworld => hworld
  | cons batch rest ih =>
    intro tally tally' world world' hworld
    exact ih (h.stays (batch.map (extraction setting)) hworld)

/-- The empty text has no cues, whatever it is taken for. -/
theorem cueCount_empty (extraction : Extraction) : cueCount extraction "" = .ok 0 := by
  cases extraction with
  | transcript track format =>
    have hcount : SubRip.count "" = 0 := by cbv
    exact congrArg Except.ok hcount
  | ocr track =>
    have hcues : OcrDump.cues "" = .ok [] := by cbv
    have hcount : SubRip.count (SubRip.render []) = 0 := by cbv
    simp only [cueCount, hcues, hcount]

/-- Hushing makes a failed track a silent one, and leaves the others alone. -/
theorem counted?_hush (entry : Track × Except Fault String) :
    counted? setting (hush setting entry) = some ((counted? setting entry).getD (0, entry.1)) ∧
      uncounted? setting (hush setting entry) = none := by
  have hfailure := searchFailure?_toAnswered setting entry
  unfold hush Answered.hushed
  rw [hfailure]
  unfold counted? uncounted?
  cases hcount : entry.2.bind (cueCount (extraction setting entry.1)) with
  | ok count => simp [toAnswered, hcount]
  | error fault => simp [Except.bind, cueCount_empty]

/-- Beyond the silent tracks, the same tracks are counted. -/
theorem filter_counted_hush (entries : List (Track × Except Fault String)) :
    ((entries.map (hush setting)).filterMap (counted? setting)).filter (0 < ·.1) =
      (entries.filterMap (counted? setting)).filter (0 < ·.1) := by
  induction entries with
  | nil => rfl
  | cons entry rest ih =>
    rw [List.map_cons, List.filterMap_cons, (counted?_hush entry).1, List.filterMap_cons]
    cases hcounted : counted? setting entry with
    | none => simpa using ih
    | some count => simp only [Option.getD_some, List.filter_cons, ih]

/-- **A search picks the same tracks under hushed tools**, without any failure. -/
theorem search_hushed (h : loud.HushedBy quiet setting.media related) {pool : List Track}
    (hdistinct : (pool.map Track.index).Nodup) {world : World σ} {world' : World τ}
    (hworld : related world world') :
    (search quiet setting pool world').1 =
        ⟨(search loud setting pool world).1.selected, []⟩ ∧
      related (search loud setting pool world).2 (search quiet setting pool world').2 := by
  refine ⟨?_, countBatches_related h _ hworld⟩
  rw [search_eq, search_eq, answered_hushed h _ hworld]
  have hanswered := answered_sublist setting loud (batches setting.batchSize pool) world
  rw [flatten_batches] at hanswered
  generalize answered setting loud world (batches setting.batchSize pool) = entries at hanswered
  have htracks : ((entries.map (hush setting)).map Prod.fst) = entries.map Prod.fst := by
    rw [List.map_map]
    rfl
  -- both lists of counted tracks are part of the pool
  have hnodup : ∀ some : List (Track × Except Fault String),
      (some.map Prod.fst).Sublist pool →
      (((some.filterMap (counted? setting)).map Prod.snd).map Track.index).Nodup := fun some hsome =>
    hdistinct.sublist (((counted_sublist setting some).trans hsome).map Track.index)
  have hpick := pickSparse_filter (hnodup _ (htracks ▸ hanswered))
  rw [filter_counted_hush, pickSparse_filter (hnodup entries hanswered)] at hpick
  have hfailures : (entries.map (hush setting)).filterMap (uncounted? setting) = [] := by
    simp [List.filterMap_map, (counted?_hush _).2]
  rw [hfailures, ← hpick]

end ForeignAudio

/-! ## Rule-sets -/

/-- The same picks without any failure. -/
def Picks.hushed (picks : Picks) : Picks := { picks with failures := [] }

namespace RuleSet

variable {loud : Toolbox σ} {quiet : Toolbox τ} {setting : ForeignAudio.Setting}
  {related : World σ → World τ → Prop}

/-- A rule-set under hushed tools. -/
theorem narrow_hushed (h : loud.HushedBy quiet setting.media related) (rules : List Rule)
    (picks : Picks) {world : World σ} {world' : World τ} {pool : List Track}
    (hworld : related world world') (hdistinct : (pool.map Track.index).Nodup) :
    ∃ picked after last last',
      narrow loud setting picks world rules pool = (.ok (picked, after), last) ∧
      narrow quiet setting picks.hushed world' rules pool = (.ok (picked, after.hushed), last') ∧
      related last last' := by
  induction picks, world, rules, pool using narrow_induction loud setting generalizing world' with
  | done picks world rules pool hdone =>
    exact ⟨pool, picks, world, world', narrow_of_isDone hdone, narrow_of_isDone hdone, hworld⟩
  | search picks world rules pool hopen ih =>
    obtain ⟨hpick, hafter⟩ := ForeignAudio.search_hushed h hdistinct hworld
    have hpart := ForeignAudio.search_subperm loud setting pool world
    rw [narrow_of_search loud setting picks world hopen,
      narrow_of_search quiet setting picks.hushed world' hopen, hpick]
    exact ih hafter (nodup_of_subperm hpart hdistinct)
  | apply picks world rule rules pool kept hrule hopen hkept ih =>
    have hpart := Rule.apply_sublist hkept
    rw [narrow_of_apply loud setting picks world hrule hopen hkept,
      narrow_of_apply quiet setting picks.hushed world' hrule hopen hkept]
    exact ih hworld (nodup_of_subperm hpart.subperm hdistinct)

/-- A run under hushed tools. -/
theorem run_hushed (h : loud.HushedBy quiet setting.media related) (sets : List RuleSet)
    (picks : Picks) {world : World σ} {world' : World τ} {pool : List Track}
    (hworld : related world world') (hdistinct : (pool.map Track.index).Nodup) :
    ∃ after last last',
      run loud setting picks world sets pool = (.ok after, last) ∧
      run quiet setting picks.hushed world' sets pool = (.ok after.hushed, last') ∧
      related last last' := by
  induction picks, world, sets, pool using run_induction loud setting generalizing world' with
  | done picks world sets pool hover =>
    exact ⟨picks, world, world', run_of_isOver hover, run_of_isOver hover, hworld⟩
  | turn picks world set sets pool picked after now hpool hnarrow ih =>
    obtain ⟨_, _, _, now', hloud, hquiet, hnow⟩ := narrow_hushed h set.rules picks hworld hdistinct
    cases hnarrow.symm.trans hloud
    rw [run_of_narrow loud setting picks world hpool hloud,
      run_of_narrow quiet setting picks.hushed world' hpool hquiet]
    exact ih hnow (nodup_remaining hdistinct picked)

variable (setting) in
/-- **A failed extraction counts as a silent track.** Rule-sets select the same of candidates with
distinct indices, in the same order, when every text that cannot be had and every malformed dump
becomes the empty text. The same pools are searched and the same texts are extracted, in the same
order; only the failures are gone. -/
theorem select_hushed (h : loud.HushedBy quiet setting.media related) (sets : List RuleSet)
    {candidates : List Track} (hdistinct : (candidates.map Track.index).Nodup) {world : World σ}
    {world' : World τ} (hworld : related world world') :
    ∃ picks picks' after after' answers answers',
      select loud setting sets candidates world = (.ok picks, after) ∧
      select quiet setting sets candidates world' = (.ok picks', after') ∧
      related after after' ∧
      picks'.selected = picks.selected ∧ picks'.searched = picks.searched ∧ picks'.failures = [] ∧
      select loud.recording setting sets candidates (world.noting []) =
        (.ok picks, after.noting answers) ∧
      select quiet.recording setting sets candidates (world'.noting []) =
        (.ok picks', after'.noting answers') ∧
      answers'.map Answered.extraction = answers.map Answered.extraction := by
  obtain ⟨picks, after, answers, hloud, hloudRecorded, -⟩ :=
    select_recorded loud setting sets candidates world
  obtain ⟨picks', after', answers', hquiet, hquietRecorded, -⟩ :=
    select_recorded quiet setting sets candidates world'
  have hnoted : Toolbox.Noted related (world.noting []) (world'.noting []) :=
    ⟨world, world', [], hworld, rfl, rfl⟩
  obtain ⟨picked, -, -, hrun, hrun', now, now', log, hnow, rfl, rfl⟩ :=
    run_hushed h.recording sets {} hnoted hdistinct
  -- the records of the two runs tell what each came to
  have hsame := hloudRecorded.symm.trans hrun
  have hsame' := hquietRecorded.symm.trans hrun'
  simp only [Prod.mk.injEq, Except.ok.injEq, World.noting_inj] at hsame hsame'
  obtain ⟨rfl, rfl, rfl⟩ := hsame
  obtain ⟨rfl, rfl, rfl⟩ := hsame'
  refine ⟨picks, picks.hushed, after, after', answers, answers.map Answered.hushed, hloud, hquiet,
    hnow, rfl, rfl, rfl, hloudRecorded, hquietRecorded, ?_⟩
  simp [Function.comp_def]

/-- Three texts and a bitmap. -/
def mixedSubtitles : List Track :=
  [{ index := 2, kind := .subtitle, codec := "subrip" },
    { index := 3, kind := .subtitle, codec := "subrip" },
    { index := 4, kind := .subtitle, codec := "subrip" },
    { index := 5, kind := .subtitle, codec := "xsub" }]

/-- A dump whose first marker has no text line. -/
def markersOnly : String := "frame:0 pts_time:1\nframe:1 pts_time:2\n"

/-- There are five cues in the first text, none to be had of the second, one in the third, and a
malformed dump of the bitmap. -/
def gappyTexts : Answers where
  probe := .error .unusablePath
  transcript track :=
    if track = 3 then .error (.extraction 3 "no text")
    else .ok (Sample.subRip (if track = 2 then 5 else 1))
  ocr _ := .ok markersOnly

/-- Two of the texts have numbers of cues, and two tracks fail. -/
theorem counts_gappyTexts (world : World (List Inquiry)) :
    ForeignAudio.counts (.scripted gappyTexts) ⟨"film.mkv", ["xsub"], 2⟩ mixedSubtitles world =
      [(5, { index := 2, kind := .subtitle, codec := "subrip" }),
        (1, { index := 4, kind := .subtitle, codec := "subrip" })] ∧
      (ForeignAudio.search (.scripted gappyTexts) ⟨"film.mkv", ["xsub"], 2⟩ mixedSubtitles
        world).1.failures.length = 2 := by
  obtain ⟨fault, hmalformed⟩ : ∃ fault, OcrDump.cues markersOnly = .error fault := by
    have hnone : (OcrDump.cues markersOnly).toOption = none := by decide +kernel
    cases hcues : OcrDump.cues markersOnly with
    | error fault => exact ⟨fault, rfl⟩
    | ok cues =>
      rw [hcues] at hnone
      cases hnone
  have htext : ∀ index, Track.isImage ["xsub"] { index, kind := .subtitle, codec := "subrip" } =
      false := fun index => by simp [Track.isImage]
  have hbitmap : Track.isImage ["xsub"] { index := 5, kind := .subtitle, codec := "xsub" } = true :=
    by simp [Track.isImage]
  rw [ForeignAudio.search_eq, ForeignAudio.counts, ForeignAudio.answered_of_answersBy _ _
    (Toolbox.scripted_answersBy gappyTexts "film.mkv"), ForeignAudio.flatten_batches]
  simp only [mixedSubtitles, List.map_cons, List.map_nil, List.filterMap_cons, List.filterMap_nil,
    ForeignAudio.counted?, ForeignAudio.uncounted?, ForeignAudio.extraction, htext, hbitmap,
    Bool.false_eq_true, if_false, if_true, Answers.extract, gappyTexts, Nat.reduceEqDiff,
    ForeignAudio.cueCount, Except.bind, SubRip.count_subRip, hmalformed]
  exact ⟨trivial, rfl⟩

/-- The third of the texts is sparse. -/
theorem search_gappyTexts (world : World (List Inquiry)) :
    (ForeignAudio.search (.scripted gappyTexts) ⟨"film.mkv", ["xsub"], 2⟩ mixedSubtitles
        world).1.selected = [{ index := 4, kind := .subtitle, codec := "subrip" }] := by
  rw [ForeignAudio.search_eq]
  refine (congrArg ForeignAudio.pickSparse (counts_gappyTexts world).1).trans ?_
  cbv

/-- The third subtitle is sparse, whether the two failures are failures or silence. -/
theorem select_hushed_gappyTexts : (mixedSubtitles.map Track.index).Nodup ∧
    ∃ picks picks' after,
      select (.scripted gappyTexts) ⟨"film.mkv", ["xsub"], 2⟩ [⟨"foreign", [.foreignAudio]⟩]
        mixedSubtitles ⟨.fresh, []⟩ = (.ok picks, after) ∧
      select (Toolbox.scripted gappyTexts).hushed ⟨"film.mkv", ["xsub"], 2⟩
        [⟨"foreign", [.foreignAudio]⟩] mixedSubtitles ⟨.fresh, []⟩ = (.ok picks', after) ∧
      picks.selected.map Track.index = [4] ∧ picks.failures.length = 2 ∧
      picks'.selected = picks.selected ∧ picks'.failures = [] := by
  have hdistinct : (mixedSubtitles.map Track.index).Nodup := by decide
  have hpicked := search_gappyTexts ⟨.fresh, []⟩
  have hfailed := (counts_gappyTexts ⟨.fresh, []⟩).2
  obtain ⟨picks, picks', after, after', -, -, hrun, hrun', hafter, hselected, -, hfailures, -⟩ :=
    select_hushed ⟨"film.mkv", ["xsub"], 2⟩
      ((Toolbox.scripted gappyTexts).hushedBy_hushed "film.mkv") [⟨"foreign", [.foreignAudio]⟩]
      hdistinct (Eq.refl ⟨.fresh, []⟩)
  subst hafter
  have hloud := hrun
  rw [select, run, if_neg (by decide), narrow_of_search _ _ _ _ (by decide)] at hloud
  cases hloud
  refine ⟨hdistinct, _, picks', _, hrun, hrun', ?_, ?_, hselected, hfailures⟩
  · exact congrArg (List.map Track.index) hpicked
  · rw [Picks.afterSearch_failures, List.nil_append, hfailed]

end RuleSet

end TrackSelect
