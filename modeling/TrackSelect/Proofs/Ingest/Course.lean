import TrackSelect.Proofs.ForeignAudio.Scheduling
import TrackSelect.Proofs.Rule.Narrowing
import TrackSelect.Proofs.Toolbox.Reporting
import TrackSelect.Ingest

/-!
# The course of an ingestion

`Ingest.run` is given tools and runs to its end with them. A `Course` is the same ingestion with
the tools left open: it says what is asked for next, of a tool or of the disk, and how it goes on
with whatever becomes of that. So other things may happen between two of its requests.

* `Course.ingestion` is the course of an ingestion, and following it with any tools is running it
  (`follow_ingestion`).
* It never asks for more extractions at a time than a batch may have (`within_ingestion`).
* With tools that answer by functions, and a disk that does as it is told, a course has a value
  whatever happens around it (`follow_eq_value`).
-/

namespace TrackSelect

/-- What is asked for next, and how it goes on with what becomes of that. -/
inductive Course (α : Type) where
  | done (value : α)
  | probe (next : Except Fault ProbeReport → Course α)
  /-- Some extractions that may be under way at the same time. -/
  | extract (batch : List Extraction) (next : List (Except Fault String) → Course α)
  | makeFolders (next : Except Fault Unit → Course α)
  /-- The caption file of a track. -/
  | store (track : Nat) (cues : List Cue) (next : Except Fault Unit → Course α)

namespace Ingest

variable {σ : Type}

/-- Make the folders of the caption files. -/
def makeCaptionFolders (settings : Settings) (media : String) : Call σ Unit := fun world =>
  match world.disk.makeFolders (captionFolder settings media) with
  | .error fault => (.error fault, world)
  | .ok disk => (.ok (), { world with disk })

/-- Write the caption file of a track. -/
def writeCaptions (settings : Settings) (media : String) (track : Nat) (cues : List Cue) :
    Call σ Unit := fun world =>
  match world.disk.store (captionPath settings media track)
      (Text.Utf8.encode (SubRip.render cues)) with
  | .error fault => (.error fault, world)
  | .ok disk => (.ok (), { world with disk })

/-- Caption files are stored in these two steps. -/
theorem storeCaptions_steps (settings : Settings) (media : String) (track : Nat) (cues : List Cue)
    (world : World σ) :
    ((storeCaptions settings media track cues world.disk).1,
        { world with disk := (storeCaptions settings media track cues world.disk).2 }) =
      match makeCaptionFolders settings media world with
      | (.error fault, after) => (.error fault, after)
      | (.ok (), after) => writeCaptions settings media track cues after := by
  unfold storeCaptions makeCaptionFolders writeCaptions
  generalize world.disk.makeFolders (captionFolder settings media) = made
  obtain fault | disk := made
  · rfl
  · simp only
    generalize disk.store (captionPath settings media track)
      (Text.Utf8.encode (SubRip.render cues)) = stored
    obtain fault | last := stored <;> rfl

end Ingest

open Ingest

namespace Course

variable {α β σ : Type}

/-- One course after the other. -/
def bind : Course α → (α → Course β) → Course β
  | done value, behind => behind value
  | probe next, behind => probe fun report => (next report).bind behind
  | extract batch next, behind => extract batch fun answers => (next answers).bind behind
  | makeFolders next, behind => makeFolders fun outcome => (next outcome).bind behind
  | store track cues next, behind => store track cues fun outcome => (next outcome).bind behind

/-- Follow a course with some tools. -/
def follow (tools : Toolbox σ) (settings : Settings) (media : String) :
    Course α → World σ → α × World σ
  | done value, world => (value, world)
  | probe next, world =>
    (next (tools.probe media world).1).follow tools settings media (tools.probe media world).2
  | extract batch next, world =>
    (next (tools.extractAll media batch world).1).follow tools settings media
      (tools.extractAll media batch world).2
  | makeFolders next, world =>
    (next (makeCaptionFolders settings media world).1).follow tools settings media
      (makeCaptionFolders settings media world).2
  | store track cues next, world =>
    (next (writeCaptions settings media track cues world).1).follow tools settings media
      (writeCaptions settings media track cues world).2

theorem follow_bind (tools : Toolbox σ) (settings : Settings) (media : String) (course : Course α)
    (behind : α → Course β) (world : World σ) :
    (course.bind behind).follow tools settings media world =
      (behind (course.follow tools settings media world).1).follow tools settings media
        (course.follow tools settings media world).2 := by
  induction course generalizing world with
  | done value => rfl
  | probe next ih | extract batch next ih | makeFolders next ih | store track cues next ih =>
    simp only [bind, follow, ih]

/-! ## The courses of the parts -/

section Parts

variable (settings : Settings) (media : String)

/-- Count the cues of the tracks of all batches. -/
def countBatches (tally : ForeignAudio.Tally) : List (List Track) → Course ForeignAudio.Tally
  | [] => done tally
  | batch :: rest =>
    extract (batch.map (ForeignAudio.extraction (searchSetting settings media))) fun answers =>
      countBatches ((batch.zip answers).foldl (fun tally (track, answer) =>
        tally.add (searchSetting settings media) track answer) tally) rest

/-- Search a pool. -/
def search (pool : List Track) : Course ForeignAudio.Pick :=
  (countBatches settings media {} (ForeignAudio.batches settings.batchSize pool)).bind fun tally =>
    done ⟨ForeignAudio.pickSparse tally.counts, tally.failures⟩

/-- Apply the rules of a rule-set. -/
def narrow (picks : Picks) :
    List Rule → List Track → Course (Except Fault (List Track × Picks))
  | [], tracks => done (.ok (tracks, picks))
  | rule :: rules, tracks =>
    if isSettled tracks then done (.ok (tracks, picks))
    else if rule = .foreignAudio then
      (search settings media tracks).bind fun pick =>
        narrow (picks.afterSearch tracks pick) rules pick.selected
    else match rule.apply .subtitle tracks with
      | .ok kept => narrow picks rules kept
      | .error fault => done (.error fault)

/-- Run rule-sets over a pool. -/
def ruleSets (picks : Picks) : List RuleSet → List Track → Course (Except Fault Picks)
  | [], _ => done (.ok picks)
  | set :: sets, pool =>
    if pool = [] then done (.ok picks)
    else (narrow settings media picks set.rules pool).bind fun
      | .ok (picked, picks) =>
        ruleSets { picks with selected := picks.selected ++ picked } sets
          (RuleSet.remaining pool picked)
      | .error fault => done (.error fault)

/-- Store the caption file of a track, with the folders it needs. -/
def storeCaptions (track : Nat) (cues : List Cue) : Course (Except Fault Unit) :=
  makeFolders fun
    | .error fault => done (.error fault)
    | .ok () => store track cues done

/-- Make the caption file of a bitmap subtitle. -/
def makeCaptions (track : Nat) : Course (Except Fault String) :=
  extract [.ocr track] fun answers =>
    match answers.head?.getD (.error (.extraction track "no answer")) with
    | .error fault => done (.error fault)
    | .ok dump =>
      match OcrDump.cues dump with
      | .error fault => done (.error fault)
      | .ok [] => done (.error (.extraction track "OCR produced no captions"))
      | .ok cues =>
        (storeCaptions track cues).bind fun outcome =>
          done (outcome.map fun () => captionPath settings media track)

/-- Make the caption files of the bitmap subtitles among some tracks. -/
def captionAll (sofar : Captioned) : List Track → Course (Except Fault Captioned)
  | [] => done (.ok sofar)
  | track :: rest =>
    if !track.isImage settings.imageCodecs then
      captionAll { sofar with kept := sofar.kept ++ [track] } rest
    else (makeCaptions settings media track.index).bind fun
      | .ok path =>
        captionAll { sofar with kept := sofar.kept ++ [{ track with captions := some path }] } rest
      | .error fault =>
        match dropped? track.index fault with
        | some failure => captionAll { sofar with failures := sofar.failures ++ [failure] } rest
        | none => done (.error fault)

/-- The subtitles of an ingestion, and the pools that were searched for them. -/
def subtitles (candidates : List Track) :
    Course (Except Fault (List Track) × List (List Track)) :=
  (ruleSets settings media {} settings.subtitle candidates).bind fun
    | .error fault => done (.error fault, [])
    | .ok picks =>
      (captionAll settings media {} picks.selected).bind fun
        | .error fault => done (.error fault, picks.searched)
        | .ok captioned =>
          match (picks.failures ++ captioned.failures).getLast? with
          | some fault =>
            if candidates ≠ [] && captioned.kept = [] then done (.error fault, picks.searched)
            else done (.ok captioned.kept, picks.searched)
          | none => done (.ok captioned.kept, picks.searched)

/-- The course of an ingestion. -/
def ingestion : Course Ingestion :=
  probe fun
    | .error fault => done ⟨.error fault, []⟩
    | .ok report =>
      match Catalog.ofReport report with
      | .error fault => done ⟨.error fault, []⟩
      | .ok catalog =>
        match settings.video.select catalog.video with
        | .error fault => done ⟨.error fault, []⟩
        | .ok video =>
          match settings.audio.select catalog.audio with
          | .error fault => done ⟨.error fault, []⟩
          | .ok audio =>
            (subtitles settings media catalog.subtitle).bind fun
              | (.error fault, searched) => done ⟨.error fault, searched⟩
              | (.ok subtitle, searched) => done ⟨.ok { video, audio, subtitle }, searched⟩

end Parts

/-! ## Following a course is running it -/

section Following

variable (tools : Toolbox σ) (settings : Settings) (media : String)

theorem follow_countBatches (pools : List (List Track)) :
    ∀ (tally : ForeignAudio.Tally) (world : World σ),
      (countBatches settings media tally pools).follow tools settings media world =
        ForeignAudio.countBatches tools (searchSetting settings media) tally world pools := by
  induction pools with
  | nil => exact fun tally world => rfl
  | cons batch rest ih =>
    intro tally world
    rw [countBatches, follow, ih]
    rfl

theorem follow_search (pool : List Track) (world : World σ) :
    (search settings media pool).follow tools settings media world =
      ForeignAudio.search tools (searchSetting settings media) pool world := by
  rw [search, follow_bind, follow_countBatches]
  rfl

theorem follow_narrow (rules : List Rule) (picks : Picks) (pool : List Track) (world : World σ) :
    (narrow settings media picks rules pool).follow tools settings media world =
      RuleSet.narrow tools (searchSetting settings media) picks world rules pool := by
  induction picks, world, rules, pool using
    RuleSet.narrow_induction tools (searchSetting settings media) with
  | done picks world rules pool hdone =>
    rw [RuleSet.narrow_of_isDone hdone]
    rcases hdone with rfl | hsettled
    · rfl
    · cases rules with
      | nil => rfl
      | cons rule rules => rw [narrow, if_pos hsettled, follow]
  | search picks world rules pool hopen ih =>
    -- only the search asks for anything; the other rules never fail here
    rw [RuleSet.narrow_of_search _ _ _ _ hopen, narrow, if_neg hopen, if_pos rfl, follow_bind,
      follow_search]
    exact ih
  | apply picks world rule rules pool kept hrule hopen hkept ih =>
    rw [RuleSet.narrow_of_apply _ _ _ _ hrule hopen hkept, narrow, if_neg hopen, if_neg hrule,
      hkept]
    exact ih

theorem follow_ruleSets (sets : List RuleSet) :
    ∀ (picks : Picks) (pool : List Track) (world : World σ),
      (ruleSets settings media picks sets pool).follow tools settings media world =
        RuleSet.run tools (searchSetting settings media) picks world sets pool := by
  induction sets with
  | nil => exact fun picks pool world => rfl
  | cons set sets ih =>
    intro picks pool world
    rw [ruleSets, RuleSet.run]
    split_ifs
    · rfl
    · rw [follow_bind, follow_narrow]
      generalize RuleSet.narrow tools (searchSetting settings media) picks world set.rules pool =
        result
      obtain ⟨fault | ⟨picked, between⟩, after⟩ := result
      · rfl
      · exact ih _ _ _

theorem follow_storeCaptions (track : Nat) (cues : List Cue) (world : World σ) :
    (storeCaptions track cues).follow tools settings media world =
      ((Ingest.storeCaptions settings media track cues world.disk).1,
        { world with disk := (Ingest.storeCaptions settings media track cues world.disk).2 }) := by
  rw [storeCaptions_steps, storeCaptions, follow]
  generalize makeCaptionFolders settings media world = result
  obtain ⟨fault | _, after⟩ := result <;> simp only [follow]

theorem follow_makeCaptions (track : Nat) (world : World σ) :
    (makeCaptions settings media track).follow tools settings media world =
      Ingest.makeCaptions tools settings media track world := by
  rw [makeCaptions, follow, Ingest.makeCaptions, Toolbox.extract]
  generalize tools.extractAll media [.ocr track] world = result
  obtain ⟨_ | ⟨fault | dump, answers⟩, after⟩ := result
  · rfl
  · rfl
  · simp only [List.head?_cons, Option.getD_some]
    cases OcrDump.cues dump with
    | error fault => rfl
    | ok cues =>
      cases cues with
      | nil => rfl
      | cons cue cues =>
        simp only [follow_bind, follow_storeCaptions]
        generalize Ingest.storeCaptions settings media track (cue :: cues) after.disk = stored
        obtain ⟨fault | _, disk⟩ := stored <;> rfl

theorem follow_captionAll (tracks : List Track) :
    ∀ (sofar : Captioned) (world : World σ),
      (captionAll settings media sofar tracks).follow tools settings media world =
        Ingest.captionAll tools settings media sofar world tracks := by
  induction tracks with
  | nil => exact fun sofar world => rfl
  | cons track rest ih =>
    intro sofar world
    rw [captionAll, Ingest.captionAll]
    split_ifs
    · exact ih _ _
    · rw [follow_bind, follow_makeCaptions]
      generalize Ingest.makeCaptions tools settings media track.index world = result
      obtain ⟨fault | path, after⟩ := result
      · simp only
        cases dropped? track.index fault with
        | none => rfl
        | some failure => exact ih _ _
      · exact ih _ _

theorem follow_subtitles (candidates : List Track) (world : World σ) :
    (subtitles settings media candidates).follow tools settings media world =
      (((Ingest.subtitles tools settings media candidates world).1,
        (Ingest.subtitles tools settings media candidates world).2.1),
        (Ingest.subtitles tools settings media candidates world).2.2) := by
  rw [subtitles, follow_bind, follow_ruleSets, Ingest.subtitles, RuleSet.select]
  generalize RuleSet.run tools (searchSetting settings media) {} world settings.subtitle
    candidates = result
  obtain ⟨fault | picks, after⟩ := result
  · rfl
  · simp only
    rw [follow_bind, follow_captionAll]
    generalize Ingest.captionAll tools settings media {} after picks.selected = captioning
    obtain ⟨fault | captioned, last⟩ := captioning
    · rfl
    · simp only
      cases (picks.failures ++ captioned.failures).getLast? with
      | none => rfl
      | some fault =>
        simp only
        split_ifs <;> rfl

/-- **Following the course of an ingestion is the ingestion**, whatever the tools are. -/
theorem follow_ingestion (world : World σ) :
    (ingestion settings media).follow tools settings media world =
      Ingest.run tools settings media world := by
  rw [ingestion, follow, Ingest.run]
  generalize tools.probe media world = result
  obtain ⟨fault | report, probed⟩ := result
  · rfl
  simp only
  cases Catalog.ofReport report with
  | error fault => rfl
  | ok catalog =>
    simp only
    cases settings.video.select catalog.video with
    | error fault => rfl
    | ok video =>
      simp only
      cases settings.audio.select catalog.audio with
      | error fault => rfl
      | ok audio =>
        simp only
        rw [follow_bind, follow_subtitles]
        generalize Ingest.subtitles tools settings media catalog.subtitle probed = result
        obtain ⟨fault | subtitle, searched, last⟩ := result <;> rfl

end Following

/-! ## Extractions at a time -/

/-- No more extractions than that are asked for at a time. -/
def Within (size : Nat) : Course α → Prop
  | done _ => True
  | probe next => ∀ report, (next report).Within size
  | extract batch next => batch.length ≤ size ∧ ∀ answers, (next answers).Within size
  | makeFolders next => ∀ outcome, (next outcome).Within size
  | store _ _ next => ∀ outcome, (next outcome).Within size

theorem Within.bind {size : Nat} {course : Course α} {behind : α → Course β}
    (h : course.Within size) (hbehind : ∀ value, (behind value).Within size) :
    (course.bind behind).Within size := by
  induction course with
  | done value => exact hbehind value
  | probe next ih => exact fun report => ih report (h report)
  | extract batch next ih => exact ⟨h.1, fun answers => ih answers (h.2 answers)⟩
  | makeFolders next ih => exact fun outcome => ih outcome (h outcome)
  | store track cues next ih => exact fun outcome => ih outcome (h outcome)

section Sizes

variable (settings : Settings) (media : String)

theorem within_search (pool : List Track) :
    (search settings media pool).Within (max 1 settings.batchSize) := by
  have hcount : ∀ (pools : List (List Track)) (tally : ForeignAudio.Tally),
      (∀ batch ∈ pools, batch.length ≤ max 1 settings.batchSize) →
      (countBatches settings media tally pools).Within (max 1 settings.batchSize) := by
    intro pools
    induction pools with
    | nil => exact fun _ _ => trivial
    | cons batch rest ih =>
      intro tally hpools
      refine ⟨?_, fun answers => ih _ fun other hother => hpools other (List.mem_cons_of_mem _ hother)⟩
      rw [List.length_map]
      exact hpools batch List.mem_cons_self
  exact (hcount _ {} (ForeignAudio.length_le_of_mem_batches settings.batchSize pool)).bind
    fun tally => trivial

theorem within_narrow (rules : List Rule) : ∀ (picks : Picks) (pool : List Track),
    (narrow settings media picks rules pool).Within (max 1 settings.batchSize) := by
  induction rules with
  | nil => exact fun picks pool => trivial
  | cons rule rules ih =>
    intro picks pool
    rw [narrow]
    split_ifs with hsettled hrule
    · trivial
    · exact (within_search settings media pool).bind fun pick => ih _ _
    · obtain ⟨kept, hkept, -⟩ := Rule.apply_ok hrule .subtitle pool
      rw [hkept]
      exact ih picks kept

theorem within_ruleSets (sets : List RuleSet) : ∀ (picks : Picks) (pool : List Track),
    (ruleSets settings media picks sets pool).Within (max 1 settings.batchSize) := by
  induction sets with
  | nil => exact fun picks pool => trivial
  | cons set sets ih =>
    intro picks pool
    rw [ruleSets]
    split_ifs
    · trivial
    · refine (within_narrow settings media set.rules picks pool).bind ?_
      rintro (fault | ⟨picked, between⟩)
      · trivial
      · exact ih _ _

/-- A dump is extracted alone, and the size of a batch is one at least. -/
theorem within_makeCaptions (track : Nat) :
    (makeCaptions settings media track).Within (max 1 settings.batchSize) := by
  refine ⟨Nat.le_max_left 1 _, fun answers => ?_⟩
  dsimp only
  cases answers.head?.getD (.error (.extraction track "no answer")) with
  | error fault => trivial
  | ok dump =>
    dsimp only
    cases OcrDump.cues dump with
    | error fault => trivial
    | ok cues =>
      cases cues with
      | nil => trivial
      | cons cue cues =>
        refine Within.bind ?_ fun outcome => trivial
        rintro (fault | _)
        · trivial
        · exact fun outcome => trivial

theorem within_captionAll (tracks : List Track) : ∀ sofar : Captioned,
    (captionAll settings media sofar tracks).Within (max 1 settings.batchSize) := by
  induction tracks with
  | nil => exact fun sofar => trivial
  | cons track rest ih =>
    intro sofar
    rw [captionAll]
    split_ifs
    · exact ih _
    · refine (within_makeCaptions settings media track.index).bind ?_
      rintro (fault | path)
      · simp only
        cases dropped? track.index fault with
        | none => trivial
        | some failure => exact ih _
      · exact ih _

/-- **An ingestion stays within its batches.** -/
theorem within_ingestion : (ingestion settings media).Within (max 1 settings.batchSize) := by
  rintro (fault | report)
  · trivial
  simp only
  cases Catalog.ofReport report with
  | error fault => trivial
  | ok catalog =>
    simp only
    cases settings.video.select catalog.video with
    | error fault => trivial
    | ok video =>
      simp only
      cases settings.audio.select catalog.audio with
      | error fault => trivial
      | ok audio =>
        refine Within.bind ((within_ruleSets settings media _ _ _).bind ?_) ?_
        · rintro (fault | picks)
          · trivial
          · refine (within_captionAll settings media _ _).bind ?_
            rintro (fault | captioned)
            · trivial
            · simp only
              cases (picks.failures ++ captioned.failures).getLast? with
              | none => trivial
              | some fault =>
                simp only
                split_ifs <;> trivial
        · rintro ⟨fault | subtitle, searched⟩ <;> trivial

end Sizes

/-! ## Courses under fixed answers -/

/-- What a course comes to when tools answer by functions and the disk does as it is told. -/
def value (report : Except Fault ProbeReport) (answer : Extraction → Except Fault String) :
    Course α → α
  | done value => value
  | probe next => (next report).value report answer
  | extract batch next => (next (batch.map answer)).value report answer
  | makeFolders next => (next (.ok ())).value report answer
  | store _ _ next => (next (.ok ())).value report answer

/-- The disk does as it is told whenever the course asks for it. -/
def Stores (tools : Toolbox σ) (settings : Settings) (media : String) :
    Course α → World σ → Prop
  | done _, _ => True
  | probe next, world =>
    (next (tools.probe media world).1).Stores tools settings media (tools.probe media world).2
  | extract batch next, world =>
    (next (tools.extractAll media batch world).1).Stores tools settings media
      (tools.extractAll media batch world).2
  | makeFolders next, world =>
    (makeCaptionFolders settings media world).1 = .ok () ∧
      (next (.ok ())).Stores tools settings media (makeCaptionFolders settings media world).2
  | store track cues next, world =>
    (writeCaptions settings media track cues world).1 = .ok () ∧
      (next (.ok ())).Stores tools settings media (writeCaptions settings media track cues world).2

/-- **A course comes to its value** with tools that answer by functions, if all is stored. -/
theorem follow_eq_value {tools : Toolbox σ} {settings : Settings} {media : String}
    {report : Except Fault ProbeReport} {answer : Extraction → Except Fault String}
    (hprobe : ∀ world, (tools.probe media world).1 = report)
    (hanswer : tools.AnswersBy media answer) (course : Course α) {world : World σ}
    (hstores : course.Stores tools settings media world) :
    (course.follow tools settings media world).1 = course.value report answer := by
  induction course generalizing world with
  | done value => rfl
  | probe next ih =>
    have hrest := ih _ hstores
    rw [hprobe] at hrest
    simp only [follow, value, hprobe]
    exact hrest
  | extract batch next ih =>
    have hrest := ih _ hstores
    rw [hanswer] at hrest
    simp only [follow, value, hanswer batch]
    exact hrest
  | makeFolders next ih =>
    obtain ⟨hmade, hrest⟩ := hstores
    simp only [follow, value, hmade]
    exact ih _ hrest
  | store track cues next ih =>
    obtain ⟨hwritten, hrest⟩ := hstores
    simp only [follow, value, hwritten]
    exact ih _ hrest

end Course

end TrackSelect
