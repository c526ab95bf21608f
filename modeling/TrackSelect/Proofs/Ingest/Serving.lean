import TrackSelect.Proofs.Ingest.Admission
import TrackSelect.Proofs.Ingest.Failing

/-!
# Every caller is served

The caller that has the permit can follow its course to the end with tools that are among what may
happen, and gives the permit back there (`Reached.follow`). So one order of things is that of
`runAll`, one ingestion after the other (`exists_runAll`). And if tools do come to an end
with what they are asked for, then whatever has been done so far, all callers can finish
(`Reached.exists_finished`).

`admitted_one_by_one` has all that is known of callers that ask at the same time.
-/

namespace TrackSelect.Admission

open Ingest

variable {σ : Type}

/-! ## Tools that are among what may happen -/

/-- Extractions that are made one by one. -/
def Behaviour.Extracts (behaviour : Behaviour σ) (media : String) :
    List Extraction → World σ → List (Except Fault String) → World σ → Prop
  | [], world, [], after => after = world
  | extraction :: rest, world, answer :: answers, after =>
    ∃ started ended, behaviour.start media extraction world started ∧
      behaviour.finish media extraction started answer ended ∧
      behaviour.Extracts media rest ended answers after
  | _, _, _, _ => False

/-- What some tools do is among what may happen. -/
structure Behaviour.Covers (behaviour : Behaviour σ) (tools : Toolbox σ) : Prop where
  probe : ∀ media world,
    behaviour.probe media world (tools.probe media world).1 (tools.probe media world).2
  extractAll : ∀ media batch world, behaviour.Extracts media batch world
    (tools.extractAll media batch world).1 (tools.extractAll media batch world).2

/-- Tools that come to an end with everything. -/
structure Behaviour.IsTotal (behaviour : Behaviour σ) : Prop where
  probe : ∀ media world, ∃ report after, behaviour.probe media world report after
  start : ∀ media extraction world, ∃ after, behaviour.start media extraction world after
  finish : ∀ media extraction world, ∃ answer after,
    behaviour.finish media extraction world answer after

/-- One of the things that may happen then can be picked each time. -/
theorem Behaviour.IsTotal.exists_tools {behaviour : Behaviour σ} (h : behaviour.IsTotal) :
    ∃ tools : Toolbox σ, behaviour.Covers tools := by
  have hextracts : ∀ media batch world, ∃ answers after,
      behaviour.Extracts media batch world answers after := by
    intro media batch
    induction batch with
    | nil => exact fun world => ⟨[], world, rfl⟩
    | cons extraction rest ih =>
      intro world
      obtain ⟨started, hstart⟩ := h.start media extraction world
      obtain ⟨answer, ended, hfinish⟩ := h.finish media extraction started
      obtain ⟨answers, after, hrest⟩ := ih ended
      exact ⟨answer :: answers, after, started, ended, hstart, hfinish, hrest⟩
  choose report probed hprobe using h.probe
  choose answers extracted hextracted using hextracts
  exact ⟨⟨fun media world => (report media world, probed media world),
    fun media batch world => (answers media batch world, extracted media batch world)⟩,
    hprobe, hextracted⟩

/-- What scripted tools do, one extraction at a time. -/
def Behaviour.scripted (answers : Answers) : Behaviour (List Inquiry) where
  probe _ world given after :=
    given = answers.probe ∧ after = { world with memory := .probe :: world.memory }
  start _ extraction world after :=
    after = { world with memory := .extract extraction :: world.memory }
  finish _ extraction world given after := given = answers.extract extraction ∧ after = world

theorem scripted_covers (answers : Answers) :
    (Behaviour.scripted answers).Covers (.scripted answers) where
  probe _ _ := ⟨rfl, rfl⟩
  extractAll media batch := by
    induction batch with
    | nil => exact fun world => rfl
    | cons extraction rest ih =>
      intro world
      refine ⟨_, _, rfl, ⟨rfl, rfl⟩, ?_⟩
      have hrest := ih { world with memory := .extract extraction :: world.memory }
      simpa [Toolbox.scripted] using hrest

theorem scripted_isTotal (answers : Answers) : (Behaviour.scripted answers).IsTotal where
  probe _ _ := ⟨_, _, rfl, rfl⟩
  start _ _ _ := ⟨_, rfl⟩
  finish _ _ _ := ⟨_, _, rfl, rfl⟩

theorem scripted_answersBy (answers : Answers) :
    (Behaviour.scripted answers).AnswersBy (fun _ => answers.probe) (fun _ => answers.extract) where
  probe h := h.1
  finish h := h.1

section Runs

variable {settings : Settings} {behaviour : Behaviour σ} {medias : List String} {world : World σ}
  {trace : List Event} {state : State σ}

/-! ## The caller that has the permit -/

/-- One more extraction of a batch has ended. -/
theorem ended_append {ended : List Job} {answers : List (Except Fault String)}
    (h : ended.map Job.state = answers.map .ended) (extraction : Extraction)
    (answer : Except Fault String) :
    (ended ++ [Job.mk extraction (.ended answer)]).map Job.state =
      (answers ++ [answer]).map .ended := by
  rw [List.map_append, List.map_append, h]
  rfl

/-- A batch can be extracted one by one. -/
theorem Reached.extracted {next : List (Except Fault String) → Course Ingestion}
    {before after : List Caller} {media : String} {permits : Nat} (batch : List Extraction) :
    ∀ (ended : List Job) (given answers : List (Except Fault String)) {trace : List Event}
      {now last : World σ}, ended.map Job.state = given.map .ended →
      behaviour.Extracts media batch now answers last →
      Reached settings behaviour medias world trace ⟨before ++ ⟨media, .extracting
        (ended ++ batch.map fun extraction => ⟨extraction, .idle⟩) next⟩ :: after, permits, now⟩ →
      ∃ more, Reached settings behaviour medias world (trace ++ more)
          ⟨before ++ ⟨media, .admitted (next (given ++ answers))⟩ :: after, permits, last⟩ ∧
        ∀ event ∈ more, event.action.Succeeds := by
  induction batch with
  | nil =>
    intro ended given answers trace now last hended hextracts h
    cases answers with
    | cons answer answers => exact hextracts.elim
    | nil =>
      obtain rfl : last = now := hextracts
      rw [List.map_nil, List.append_nil] at h
      rw [List.append_nil]
      refine ⟨[⟨before.length, .resume⟩], h.step (.act (.resume hended)), ?_⟩
      exact List.forall_mem_singleton.2 trivial
  | cons extraction rest ih =>
    intro ended given answers trace now last hended hextracts h
    cases answers with
    | nil => exact hextracts.elim
    | cons answer answers =>
      obtain ⟨started, changed, hstart, hfinish, hrest⟩ := hextracts
      have hanswered := (h.step (.act (.start hstart))).step (.act (.finish hfinish))
      rw [List.append_cons ended] at hanswered
      obtain ⟨more, hmore, hsucceeds⟩ :=
        ih _ _ answers (ended_append hended extraction answer) hrest hanswered
      rw [List.append_assoc, List.append_assoc, ← List.append_cons] at hmore
      refine ⟨_, hmore, ?_⟩
      simpa [Action.Succeeds] using hsucceeds

/-- **The caller that has the permit can do as tools do** that are among what may happen. It
succeeds with what it stores if it would alone. -/
theorem Reached.follow {tools : Toolbox σ} (hcovers : behaviour.Covers tools)
    {before after : List Caller} {media : String} {permits : Nat} (course : Course Ingestion) :
    ∀ {trace : List Event} {now : World σ},
      Reached settings behaviour medias world trace
        ⟨before ++ ⟨media, .admitted course⟩ :: after, permits, now⟩ →
      ∃ more, Reached settings behaviour medias world (trace ++ more)
          ⟨before ++ ⟨media, .finished (course.follow tools settings media now).1⟩ :: after,
            permits + 1, (course.follow tools settings media now).2⟩ ∧
        (course.Stores tools settings media now → ∀ event ∈ more, event.action.Succeeds) := by
  induction course with
  | done ingestion =>
    intro trace now h
    exact ⟨_, h.step .leave, fun _ => List.forall_mem_singleton.2 trivial⟩
  | probe next ih =>
    intro trace now h
    obtain ⟨more, hmore, hsucceeds⟩ := ih _ (h.step (.act (.probe (hcovers.probe media now))))
    refine ⟨_ :: more, by rwa [List.append_assoc] at hmore, fun hstores => ?_⟩
    exact List.forall_mem_cons.2 ⟨trivial, hsucceeds hstores⟩
  | extract batch next ih =>
    intro trace now h
    have hbatch := h.step (.act .batch)
    obtain ⟨waited, hwaited, hthese⟩ :=
      Reached.extracted batch [] [] _ rfl (hcovers.extractAll media batch now) hbatch
    obtain ⟨more, hmore, hsucceeds⟩ := ih _ hwaited
    refine ⟨_ :: waited ++ more, by rwa [List.append_assoc, List.append_assoc] at hmore, ?_⟩
    intro hstores
    exact List.forall_mem_append.2
      ⟨List.forall_mem_cons.2 ⟨trivial, hthese⟩, hsucceeds hstores⟩
  | makeFolders next ih =>
    intro trace now h
    obtain ⟨more, hmore, hsucceeds⟩ := ih _ (h.step (.act .makeFolders))
    refine ⟨_ :: more, by rwa [List.append_assoc] at hmore, fun hstores => ?_⟩
    -- what is stored goes on only from folders that were made
    obtain ⟨hmade, hrest⟩ := hstores
    rw [hmade] at hsucceeds
    exact List.forall_mem_cons.2 ⟨hmade, hsucceeds hrest⟩
  | store track cues next ih =>
    intro trace now h
    obtain ⟨more, hmore, hsucceeds⟩ := ih _ (h.step (.act .store))
    refine ⟨_ :: more, by rwa [List.append_assoc] at hmore, fun hstores => ?_⟩
    obtain ⟨hwritten, hrest⟩ := hstores
    rw [hwritten] at hsucceeds
    exact List.forall_mem_cons.2 ⟨hwritten, hsucceeds hrest⟩

/-- An extraction of a batch can be ended, however far it has come. -/
theorem Reached.exists_answered (htotal : behaviour.IsTotal)
    {next : List (Except Fault String) → Course Ingestion} {before after : List Caller}
    {media : String} {permits : Nat} {ended rest : List Job} {now : World σ} (job : Job)
    (h : Reached settings behaviour medias world trace
      ⟨before ++ ⟨media, .extracting (ended ++ job :: rest) next⟩ :: after, permits, now⟩) :
    ∃ more answer last, Reached settings behaviour medias world (trace ++ more)
      ⟨before ++ ⟨media, .extracting (ended ++ ⟨job.extraction, .ended answer⟩ :: rest) next⟩ ::
        after, permits, last⟩ := by
  obtain ⟨extraction, jobState⟩ := job
  cases jobState with
  | idle =>
    obtain ⟨started, hstart⟩ := htotal.start media extraction now
    obtain ⟨answer, last, hfinish⟩ := htotal.finish media extraction started
    have hlast := (h.step (.act (.start hstart))).step (.act (.finish hfinish))
    rw [List.append_assoc] at hlast
    exact ⟨_, answer, last, hlast⟩
  | underWay =>
    obtain ⟨answer, last, hfinish⟩ := htotal.finish media extraction now
    exact ⟨_, answer, last, h.step (.act (.finish hfinish))⟩
  | ended answer => exact ⟨[], answer, now, by rwa [List.append_nil]⟩

/-- So all of them can, and the caller goes on. -/
theorem Reached.exists_resumed (htotal : behaviour.IsTotal)
    {next : List (Except Fault String) → Course Ingestion} {before after : List Caller}
    {media : String} {permits : Nat} (rest : List Job) :
    ∀ (ended : List Job) (answers : List (Except Fault String)) {trace : List Event}
      {now : World σ}, ended.map Job.state = answers.map .ended →
      Reached settings behaviour medias world trace
        ⟨before ++ ⟨media, .extracting (ended ++ rest) next⟩ :: after, permits, now⟩ →
      ∃ more all last, Reached settings behaviour medias world (trace ++ more)
        ⟨before ++ ⟨media, .admitted (next all)⟩ :: after, permits, last⟩ := by
  induction rest with
  | nil =>
    intro ended answers trace now hended h
    rw [List.append_nil] at h
    exact ⟨_, answers, now, h.step (.act (.resume hended))⟩
  | cons job rest ih =>
    intro ended answers trace now hended h
    -- with the next answer there is one job less to wait for
    obtain ⟨waited, answer, changed, hanswered⟩ := h.exists_answered htotal job
    rw [List.append_cons ended] at hanswered
    obtain ⟨more, all, last, hlast⟩ := ih _ _ (ended_append hended _ answer) hanswered
    rw [List.append_assoc] at hlast
    exact ⟨_, all, last, hlast⟩

/-- **Every course comes to its end**, and gives the permit back. -/
theorem Reached.exists_left (htotal : behaviour.IsTotal) {before after : List Caller}
    {media : String} {permits : Nat} {course : Course Ingestion} {now : World σ}
    (h : Reached settings behaviour medias world trace
      ⟨before ++ ⟨media, .admitted course⟩ :: after, permits, now⟩) :
    ∃ more ingestion last, Reached settings behaviour medias world (trace ++ more)
      ⟨before ++ ⟨media, .finished ingestion⟩ :: after, permits + 1, last⟩ := by
  -- any tools do that are among what may happen
  obtain ⟨tools, hcovers⟩ := htotal.exists_tools
  obtain ⟨more, hmore, -⟩ := Reached.follow hcovers course h
  exact ⟨more, _, _, hmore⟩

/-! ## All callers -/

/-- Callers that wait can be served in their order. -/
theorem Reached.served {tools : Toolbox σ} (hcovers : behaviour.Covers tools)
    (waiting : List String) :
    ∀ (served : List Caller) {trace : List Event} {now : World σ},
      Reached settings behaviour medias world trace
        ⟨served ++ waiting.map fun media => ⟨media, .waiting⟩, 1, now⟩ →
      ∃ more, Reached settings behaviour medias world (trace ++ more)
        ⟨served ++ List.zipWith (fun media ingestion => ⟨media, .finished ingestion⟩) waiting
          (runAll tools settings now waiting).1, 1, (runAll tools settings now waiting).2⟩ := by
  induction waiting with
  | nil => exact fun served trace now h => ⟨[], by rwa [List.append_nil]⟩
  | cons media rest ih =>
    intro served trace now h
    rw [← Nat.zero_add 1] at h
    obtain ⟨done, hdone, -⟩ := Reached.follow hcovers _ (h.step .enter)
    rw [Course.follow_ingestion, List.append_cons served] at hdone
    obtain ⟨more, hmore⟩ := ih _ hdone
    rw [← List.append_cons, List.append_assoc, List.append_assoc] at hmore
    exact ⟨_, hmore⟩

variable (settings medias world) in
/-- **One order of things is one ingestion after the other.** -/
theorem exists_runAll {tools : Toolbox σ} (hcovers : behaviour.Covers tools) :
    ∃ trace, Reached settings behaviour medias world trace
      ⟨List.zipWith (fun media ingestion => ⟨media, .finished ingestion⟩) medias
        (runAll tools settings world medias).1, 1, (runAll tools settings world medias).2⟩ :=
  Reached.served hcovers medias [] .initial

def Caller.isFinished (caller : Caller) : Bool :=
  match caller.phase with
  | .finished _ => true
  | _ => false

/-- Some caller can finish, if not all have. -/
theorem Reached.exists_fewer (htotal : behaviour.IsTotal)
    (h : Reached settings behaviour medias world trace state) {caller : Caller}
    (hcaller : caller ∈ state.callers) (hunfinished : caller.isFinished = false) :
    ∃ more last, Reached settings behaviour medias world (trace ++ more) last ∧
      last.callers.countP (!·.isFinished) + 1 = state.callers.countP (!·.isFinished) := by
  have hguarded := h.guarded
  obtain ⟨callers, permits, now⟩ := state
  -- what becomes of the one that is finished is all that changes
  have hfewer : ∀ {before after : List Caller} {media : String} {phase : Phase}
      {ingestion : Ingestion}, Caller.isFinished ⟨media, phase⟩ = false →
      (before ++ ⟨media, .finished ingestion⟩ :: after).countP (!·.isFinished) + 1 =
        (before ++ ⟨media, phase⟩ :: after).countP (!·.isFinished) := by
    intro before after media phase ingestion hphase
    have hdone : Caller.isFinished ⟨media, .finished ingestion⟩ = true := rfl
    simp only [List.countP_append, List.countP_cons, hphase, hdone, Bool.not_true, Bool.not_false,
      if_true, Bool.false_eq_true, if_false]
    omega
  by_cases hadmitted : ∃ other ∈ callers, other.isAdmitted = true
  · obtain ⟨⟨media, phase⟩, hmem, hother⟩ := hadmitted
    obtain ⟨before, after, rfl⟩ := List.append_of_mem hmem
    cases phase with
    | waiting | finished => cases hother
    | admitted course =>
      obtain ⟨more, ingestion, last, hlast⟩ := Reached.exists_left htotal h
      exact ⟨more, _, hlast, hfewer rfl⟩
    | extracting jobs next =>
      obtain ⟨waited, all, changed, hresumed⟩ :=
        Reached.exists_resumed htotal jobs [] [] rfl h
      obtain ⟨more, ingestion, last, hlast⟩ := Reached.exists_left htotal hresumed
      exact ⟨waited ++ more, _, by rwa [← List.append_assoc], hfewer rfl⟩
  · -- nobody has the permit, so the caller waits for it and can have it
    have hnone : callers.countP Caller.isAdmitted = 0 :=
      List.countP_eq_zero.2 fun other hother hin => hadmitted ⟨other, hother, hin⟩
    have hpermits := hguarded.permits
    simp only [hnone, Nat.add_zero] at hpermits
    subst hpermits
    obtain ⟨media, phase⟩ := caller
    obtain ⟨before, after, rfl⟩ := List.append_of_mem hcaller
    cases phase with
    | admitted | extracting => exact absurd ⟨_, hcaller, rfl⟩ hadmitted
    | finished => cases hunfinished
    | waiting =>
      rw [← Nat.zero_add 1] at h
      obtain ⟨more, ingestion, last, hlast⟩ := Reached.exists_left htotal (h.step .enter)
      exact ⟨_ :: more, _, by rwa [List.append_assoc] at hlast, hfewer rfl⟩

/-- **All callers can finish**, whatever has been done so far. -/
theorem Reached.exists_finished (htotal : behaviour.IsTotal)
    (h : Reached settings behaviour medias world trace state) :
    ∃ more last, Reached settings behaviour medias world (trace ++ more) last ∧
      ∀ caller ∈ last.callers, ∃ ingestion, caller.phase = .finished ingestion := by
  -- by the number of callers that have not finished yet
  induction hcount : state.callers.countP (!·.isFinished) generalizing trace state with
  | zero =>
    refine ⟨[], state, by rwa [List.append_nil], fun caller hcaller => ?_⟩
    have hfinished := List.countP_eq_zero.1 hcount caller hcaller
    obtain ⟨media, phase⟩ := caller
    cases phase with
    | finished ingestion => exact ⟨ingestion, rfl⟩
    | _ => exact absurd rfl hfinished
  | succ count ih =>
    obtain ⟨caller, hcaller, hunfinished⟩ :=
      List.countP_pos_iff.1 (show 0 < state.callers.countP (!·.isFinished) by omega)
    rw [Bool.not_eq_true'] at hunfinished
    obtain ⟨more, next, hnext, hfewer⟩ := h.exists_fewer htotal hcaller hunfinished
    obtain ⟨others, last, hlast, hall⟩ := ih hnext (by omega)
    exact ⟨more ++ others, last, by rwa [← List.append_assoc], hall⟩

/-! ## What is known of callers -/

variable (settings medias trace state) in
/-- What holds of callers at any time. -/
structure OneByOne : Prop extends Guarded trace state where
  inFlight : state.inFlight ≤ max 1 settings.batchSize
  /-- What is in flight was started and has not ended. -/
  started : trace.countP (·.action.isStart) = trace.countP (·.action.isFinish) + state.inFlight
  callers : state.callers.map Caller.media = medias

/-- **Callers are admitted one by one.** At any time one caller has the permit or it is free. Only
the caller that has it uses tools and writes captions, and no more extractions are in flight than a
batch has. If tools come to an end with everything, all callers can finish from there. If tools
answer by functions, and the disk does as it is told, every ingestion that is finished is the one
that comes of the media file alone. -/
theorem admitted_one_by_one (h : Reached settings behaviour medias world trace state) :
    OneByOne settings medias trace state ∧
    (behaviour.IsTotal →
      ∃ more last, Reached settings behaviour medias world (trace ++ more) last ∧
        ∀ caller ∈ last.callers, ∃ ingestion, caller.phase = .finished ingestion) ∧
    ∀ (report : String → Except Fault ProbeReport)
      (answer : String → Extraction → Except Fault String),
      behaviour.AnswersBy report answer → (∀ event ∈ trace, event.action.Succeeds) →
      ∀ caller ∈ state.callers, ∀ ingestion, caller.phase = .finished ingestion →
      ∀ (τ : Type) (tools : Toolbox τ) (alone : World τ),
        (∀ world, (tools.probe caller.media world).1 = report caller.media) →
        tools.AnswersBy caller.media (answer caller.media) →
        (Course.ingestion settings caller.media).Stores tools settings caller.media alone →
        ingestion = (run tools settings caller.media alone).1 := by
  refine ⟨⟨h.guarded, h.inFlight_le, h.countP_isStart, h.map_media⟩,
    fun htotal => h.exists_finished htotal, ?_⟩
  intro report answer hanswers hsucceeds caller hcaller ingestion hfinished τ tools alone hprobe
    hextract hstores
  have hcomes := h.comesTo hanswers hsucceeds caller hcaller
  rw [hfinished] at hcomes
  calc ingestion
      = (Course.ingestion settings caller.media).value (report caller.media)
          (answer caller.media) := hcomes
    _ = ((Course.ingestion settings caller.media).follow tools settings caller.media alone).1 :=
        (Course.follow_eq_value hprobe hextract _ hstores).symm
    _ = (run tools settings caller.media alone).1 := by rw [Course.follow_ingestion]

end Runs

/-- Settings that take nothing but what a search finds. -/
def foreignOnly : Settings :=
  { Settings.default with subtitle := [⟨"foreign", [.language ["eng"], .foreignAudio]⟩] }

/-- The batch that is asked for as soon as the probe has given a report. -/
def firstBatch? (report : ProbeReport) : Course Ingestion → Option (List Extraction)
  | .probe next =>
    match next (.ok report) with
    | .extract batch _ => some batch
    | _ => none
  | _ => none

theorem exists_firstBatch {report : ProbeReport} {course : Course Ingestion}
    {batch : List Extraction} (h : firstBatch? report course = some batch) :
    ∃ next behind, course = .probe next ∧ next (.ok report) = .extract batch behind := by
  cases course with
  | probe next =>
    simp only [firstBatch?] at h
    cases hasked : next (.ok report) with
    | extract asked behind =>
      rw [hasked] at h
      obtain rfl := Option.some.inj h
      exact ⟨next, behind, rfl, hasked⟩
    | _ => simp [hasked] at h
  | _ => cases h

/-- The first caller has failed and given the permit back, and the second has both its extractions
under way. The third can still have its turn. -/
theorem admitted_one_by_one_uselessDumps :
    ∃ trace failed next now, Reached foreignOnly (.scripted uselessDumps)
        ["film.mkv", "film.mkv", "film.mkv"] ⟨.fresh, []⟩ trace
        ⟨[⟨"film.mkv", .finished failed⟩,
          ⟨"film.mkv", .extracting [⟨.ocr 2, .underWay⟩, ⟨.ocr 3, .underWay⟩] next⟩,
          ⟨"film.mkv", .waiting⟩], 0, now⟩ ∧
      OneByOne foreignOnly ["film.mkv", "film.mkv", "film.mkv"] trace
        ⟨[⟨"film.mkv", .finished failed⟩,
          ⟨"film.mkv", .extracting [⟨.ocr 2, .underWay⟩, ⟨.ocr 3, .underWay⟩] next⟩,
          ⟨"film.mkv", .waiting⟩], 0, now⟩ ∧
      failed.outcome = .error (.extraction 2 "no picture") ∧
      ∃ more last, Reached foreignOnly (.scripted uselessDumps)
          ["film.mkv", "film.mkv", "film.mkv"] ⟨.fresh, []⟩ (trace ++ more) last ∧
        ∀ caller ∈ last.callers, ∃ ingestion, caller.phase = .finished ingestion := by
  have hstores : (Course.ingestion foreignOnly "film.mkv").Stores (.scripted uselessDumps)
      foreignOnly "film.mkv" ⟨.fresh, []⟩ := by
    simp only [Course.ingestion, Course.Stores, Toolbox.scripted, uselessDumps, ofReport_bitmapReport]
    cbv
  have hfails : (run (.scripted uselessDumps) foreignOnly "film.mkv" ⟨.fresh, []⟩).1.outcome =
      .error (.extraction 2 "no picture") := by
    simp only [run, Toolbox.scripted, uselessDumps, ofReport_bitmapReport]
    cbv
  have hbatch : firstBatch? bitmapReport (Course.ingestion foreignOnly "film.mkv") =
      some [.ocr 2, .ocr 3] := by
    simp only [Course.ingestion, firstBatch?, ofReport_bitmapReport]
    cbv
  obtain ⟨probed, behind, hprobed, hasked⟩ := exists_firstBatch hbatch
  -- the first caller does all it has to do
  have hentered : Reached foreignOnly (.scripted uselessDumps) ["film.mkv", "film.mkv", "film.mkv"]
      ⟨.fresh, []⟩ [⟨0, .enter⟩]
      ⟨[] ++ ⟨"film.mkv", .admitted (.ingestion foreignOnly "film.mkv")⟩ ::
        [⟨"film.mkv", .waiting⟩, ⟨"film.mkv", .waiting⟩], 0, ⟨.fresh, []⟩⟩ :=
    Reached.initial.step (@Step.enter _ _ _ [] _ _ _ _)
  obtain ⟨did, hdid, hsucceeds⟩ := Reached.follow (scripted_covers uselessDumps) _ hentered
  rw [Course.follow_ingestion] at hdid
  -- the second one enters after it, probes, and starts the extractions of its batch
  have hsecond := hdid.step (@Step.enter _ _ _ [_] _ _ _ _)
  rw [hprobed] at hsecond
  have hprobe := hsecond.step (@Step.act _ _ _ [_] _ _ _ _ _ _ _ _ (.probe ⟨rfl, rfl⟩))
  have hreport : uselessDumps.probe = .ok bitmapReport := rfl
  rw [hreport, hasked] at hprobe
  have hlaid := hprobe.step (@Step.act _ _ _ [_] _ _ _ _ _ _ _ _ .batch)
  have hstarted := (hlaid.step (@Step.act _ _ _ [_] _ _ _ _ _ _ _ _
    (@Phase.Step.start _ _ _ _ [] _ _ _ _ _ rfl))).step (@Step.act _ _ _ [_] _ _ _ _ _ _ _ _
      (@Phase.Step.start _ _ _ _ [_] _ _ _ _ _ rfl))
  obtain ⟨hone, hfinish, halone⟩ := admitted_one_by_one hstarted
  refine ⟨_, _, _, _, hstarted, hone, ?_, hfinish (scripted_isTotal uselessDumps)⟩
  have halone' := halone _ _ (scripted_answersBy uselessDumps) (by
    simpa only [List.forall_mem_append, List.forall_mem_singleton, Action.Succeeds, true_and,
      and_true] using hsucceeds hstores)
  rw [halone' _ List.mem_cons_self _ rfl _ (.scripted uselessDumps) ⟨.fresh, []⟩ (fun _ => rfl)
    (Toolbox.scripted_answersBy uselessDumps "film.mkv") hstores]
  exact hfails

end TrackSelect.Admission
