import Mathlib.Algebra.GroupWithZero.Nat
import TrackSelect.Proofs.Ingest.Course

/-!
# Ingestions that are asked for at the same time

Any number of callers ask for ingestions with the same settings. There is one permit. A caller waits
for it, follows the course of its ingestion while it has it, and gives it back when the course is
done, whatever it has come to. `Step` are the things that can happen then, in any order: also the
extractions of a batch are started and end one by one.

What a step keeps is said for the callers and the permit together (`Guarded`), and for one caller at
a time (`Reached.forall_callers`): that it stays within its batch (`Reached.inFlight_le`), and that
it is on its way to the value of its course (`Reached.comesTo`).
-/

namespace TrackSelect.Admission

open Ingest

/-! ## Callers -/

inductive JobState where
  | idle
  | underWay
  | ended (answer : Except Fault String)

structure Job where
  extraction : Extraction
  state : JobState

def Job.isUnderWay (job : Job) : Bool :=
  match job.state with
  | .underWay => true
  | _ => false

/-- How far a caller has come. -/
inductive Phase where
  | waiting
  | admitted (course : Course Ingestion)
  /-- It goes on when all extractions of a batch have ended. -/
  | extracting (jobs : List Job) (next : List (Except Fault String) → Course Ingestion)
  | finished (ingestion : Ingestion)

namespace Phase

def isAdmitted : Phase → Bool
  | admitted _ | extracting _ _ => true
  | _ => false

def underWay : Phase → Nat
  | extracting jobs _ => jobs.countP Job.isUnderWay
  | _ => 0

end Phase

structure Caller where
  media : String
  phase : Phase

def Caller.isAdmitted (caller : Caller) : Bool := caller.phase.isAdmitted

structure State (σ : Type) where
  callers : List Caller
  permits : Nat
  world : World σ

/-- How many extractions all callers have under way together. -/
def State.inFlight {σ : Type} (state : State σ) : Nat :=
  (state.callers.map (·.phase.underWay)).sum

/-! ## Steps -/

inductive Action where
  | enter
  | probe
  /-- A batch is laid out. -/
  | batch
  | start (extraction : Extraction)
  | finish (extraction : Extraction)
  /-- All answers of a batch are taken in. -/
  | resume
  | makeFolders (outcome : Except Fault Unit)
  | store (track : Nat) (outcome : Except Fault Unit)
  | leave

/-- An action of the caller at a position. -/
structure Event where
  caller : Nat
  action : Action

/-- What tools may do. An extraction changes the world when it is started and when it ends, and
others may do so in between. -/
structure Behaviour (σ : Type) where
  probe : (media : String) → World σ → Except Fault ProbeReport → World σ → Prop
  start : (media : String) → Extraction → World σ → World σ → Prop
  finish : (media : String) → Extraction → World σ → Except Fault String → World σ → Prop

variable {σ : Type}

inductive Phase.Step (settings : Settings) (behaviour : Behaviour σ) (media : String) :
    Phase → World σ → Action → Phase → World σ → Prop where
  | probe {next : Except Fault ProbeReport → Course Ingestion} {world after : World σ}
      {report : Except Fault ProbeReport} (probed : behaviour.probe media world report after) :
    Step settings behaviour media (.admitted (.probe next)) world .probe
      (.admitted (next report)) after
  | batch {batch : List Extraction} {next : List (Except Fault String) → Course Ingestion}
      {world : World σ} :
    Step settings behaviour media (.admitted (.extract batch next)) world .batch
      (.extracting (batch.map fun extraction => ⟨extraction, .idle⟩) next) world
  | start {before after : List Job} {extraction : Extraction}
      {next : List (Except Fault String) → Course Ingestion} {world changed : World σ}
      (started : behaviour.start media extraction world changed) :
    Step settings behaviour media (.extracting (before ++ ⟨extraction, .idle⟩ :: after) next) world
      (.start extraction) (.extracting (before ++ ⟨extraction, .underWay⟩ :: after) next) changed
  | finish {before after : List Job} {extraction : Extraction} {answer : Except Fault String}
      {next : List (Except Fault String) → Course Ingestion} {world changed : World σ}
      (ended : behaviour.finish media extraction world answer changed) :
    Step settings behaviour media (.extracting (before ++ ⟨extraction, .underWay⟩ :: after) next)
      world (.finish extraction)
      (.extracting (before ++ ⟨extraction, .ended answer⟩ :: after) next) changed
  | resume {jobs : List Job} {answers : List (Except Fault String)}
      {next : List (Except Fault String) → Course Ingestion} {world : World σ}
      (ended : jobs.map Job.state = answers.map .ended) :
    Step settings behaviour media (.extracting jobs next) world .resume
      (.admitted (next answers)) world
  | makeFolders {next : Except Fault Unit → Course Ingestion} {world : World σ} :
    Step settings behaviour media (.admitted (.makeFolders next)) world
      (.makeFolders (makeCaptionFolders settings media world).1)
      (.admitted (next (makeCaptionFolders settings media world).1))
      (makeCaptionFolders settings media world).2
  | store {track : Nat} {cues : List Cue} {next : Except Fault Unit → Course Ingestion}
      {world : World σ} :
    Step settings behaviour media (.admitted (.store track cues next)) world
      (.store track (writeCaptions settings media track cues world).1)
      (.admitted (next (writeCaptions settings media track cues world).1))
      (writeCaptions settings media track cues world).2

/-- One step of one of the callers. -/
inductive Step (settings : Settings) (behaviour : Behaviour σ) :
    State σ → Event → State σ → Prop where
  /-- A caller that waits takes a free permit. -/
  | enter {before after : List Caller} {media : String} {permits : Nat} {world : World σ} :
    Step settings behaviour
      ⟨before ++ ⟨media, .waiting⟩ :: after, permits + 1, world⟩ ⟨before.length, .enter⟩
      ⟨before ++ ⟨media, .admitted (.ingestion settings media)⟩ :: after, permits, world⟩
  | act {before after : List Caller} {media : String} {phase next : Phase} {action : Action}
      {permits : Nat} {world changed : World σ}
      (step : phase.Step settings behaviour media world action next changed) :
    Step settings behaviour
      ⟨before ++ ⟨media, phase⟩ :: after, permits, world⟩ ⟨before.length, action⟩
      ⟨before ++ ⟨media, next⟩ :: after, permits, changed⟩
  /-- A caller that is done gives its permit back. -/
  | leave {before after : List Caller} {media : String} {ingestion : Ingestion} {permits : Nat}
      {world : World σ} :
    Step settings behaviour
      ⟨before ++ ⟨media, .admitted (.done ingestion)⟩ :: after, permits, world⟩
      ⟨before.length, .leave⟩
      ⟨before ++ ⟨media, .finished ingestion⟩ :: after, permits + 1, world⟩

/-- What callers for some media files can come to, and the trace of what they did. -/
inductive Reached (settings : Settings) (behaviour : Behaviour σ) (medias : List String)
    (world : World σ) : List Event → State σ → Prop where
  | initial :
    Reached settings behaviour medias world [] ⟨medias.map fun media => ⟨media, .waiting⟩, 1, world⟩
  | step {trace : List Event} {state next : State σ} {event : Event}
      (reached : Reached settings behaviour medias world trace state)
      (step : Step settings behaviour state event next) :
    Reached settings behaviour medias world (trace ++ [event]) next

/-! ## The holder of the permit -/

def Event.holder (holder : Option Nat) (event : Event) : Option Nat :=
  match event.action with
  | .enter => some event.caller
  | .leave => none
  | _ => holder

/-- Who has the permit after all that was done. -/
def holder? (trace : List Event) : Option Nat := trace.foldl Event.holder none

/-- A caller enters when nobody has the permit, and does everything else while it has it itself. -/
def Event.Allowed (holder : Option Nat) (event : Event) : Prop :=
  match event.action with
  | .enter => holder = none
  | _ => holder = some event.caller

theorem holder?_append (trace : List Event) (event : Event) :
    holder? (trace ++ [event]) = event.holder (holder? trace) := by
  simp only [holder?, List.foldl_append, List.foldl_cons, List.foldl_nil]

/-- The last event of a trace is the new one, and the others were there before. -/
theorem split_append {trace before after : List Event} {new event : Event}
    (h : trace ++ [new] = before ++ event :: after) :
    (∃ rest, trace = before ++ event :: rest) ∨ before = trace ∧ event = new := by
  rcases List.append_eq_append_iff.1 h with ⟨more, rfl, hnew⟩ | ⟨more, rfl, hmore⟩
  · cases more with
    | nil => exact .inr ⟨by simp, by simpa using (List.cons.inj hnew).1.symm⟩
    | cons first more => simp at hnew
  · cases more with
    | nil =>
      obtain ⟨rfl, -⟩ := List.cons.inj hmore
      exact .inr ⟨(List.append_nil before).symm, rfl⟩
    | cons first more =>
      obtain ⟨rfl, -⟩ := List.cons.inj hmore
      exact .inl ⟨more, rfl⟩

section Counting

variable {before after : List Caller} {caller : Caller}

theorem findIdx?_of_countP {callers : List Caller}
    (h : callers.countP Caller.isAdmitted = 0) : callers.findIdx? Caller.isAdmitted = none := by
  rw [List.countP_eq_zero] at h
  exact List.findIdx?_eq_none_iff.2 fun caller hcaller => Bool.not_eq_true _ ▸ h caller hcaller

/-- The first caller that is admitted is found where it stands. -/
theorem findIdx?_append_cons (hbefore : before.countP Caller.isAdmitted = 0)
    (h : caller.isAdmitted = true) :
    (before ++ caller :: after).findIdx? Caller.isAdmitted = some before.length := by
  rw [List.findIdx?_append, findIdx?_of_countP hbefore, List.findIdx?_cons, if_pos h]
  simp

theorem countP_append_cons (h : caller.isAdmitted = true) :
    (before ++ caller :: after).countP Caller.isAdmitted =
      before.countP Caller.isAdmitted + after.countP Caller.isAdmitted + 1 := by
  rw [List.countP_append, List.countP_cons_of_pos h]
  omega

theorem countP_append_cons_of_not (h : caller.isAdmitted = false) :
    (before ++ caller :: after).countP Caller.isAdmitted =
      before.countP Caller.isAdmitted + after.countP Caller.isAdmitted := by
  rw [List.countP_append, List.countP_cons_of_neg (by simp [h])]

end Counting

/-- A caller that does something on its course is admitted, and stays so. -/
theorem Phase.Step.isAdmitted {settings : Settings} {behaviour : Behaviour σ} {media : String}
    {phase next : Phase} {world changed : World σ} {action : Action}
    (h : phase.Step settings behaviour media world action next changed) :
    phase.isAdmitted = true ∧ next.isAdmitted = true := by
  cases h <;> exact ⟨rfl, rfl⟩

/-- It neither enters nor leaves by that. -/
theorem Phase.Step.holder_eq {settings : Settings} {behaviour : Behaviour σ} {media : String}
    {phase next : Phase} {world changed : World σ} {action : Action}
    (h : phase.Step settings behaviour media world action next changed) (holder : Option Nat)
    (position : Nat) :
    Event.holder holder ⟨position, action⟩ = holder ∧
      (Event.Allowed holder ⟨position, action⟩ ↔ holder = some position) := by
  cases h <;> exact ⟨rfl, Iff.rfl⟩

/-- The permit is free, or one caller has it: the one that the trace tells of. -/
structure Guarded (trace : List Event) (state : State σ) : Prop where
  permits : state.permits + state.callers.countP Caller.isAdmitted = 1
  holder : holder? trace = state.callers.findIdx? Caller.isAdmitted
  allowed : ∀ before event after, trace = before ++ event :: after →
    event.Allowed (holder? before)

/-- What is done now is allowed if it is done by the holder, or when there is none. -/
theorem Guarded.allowed_append {trace : List Event} {state : State σ} {new : Event}
    (h : Guarded trace state) (hnew : new.Allowed (holder? trace)) :
    ∀ before event after, trace ++ [new] = before ++ event :: after →
      event.Allowed (holder? before) := by
  intro before event after hsplit
  rcases split_append hsplit with ⟨rest, hold⟩ | ⟨rfl, rfl⟩
  · exact h.allowed before event rest hold
  · exact hnew

/-- **No step loses the permit or makes another one.** -/
theorem Guarded.step {settings : Settings} {behaviour : Behaviour σ} {trace : List Event}
    {state next : State σ} {event : Event} (h : Guarded trace state)
    (step : Step settings behaviour state event next) : Guarded (trace ++ [event]) next := by
  have hpermits := h.permits
  have hholder := h.holder
  cases step with
  | @enter before after media permits world =>
    have hwaiting : Caller.isAdmitted ⟨media, .waiting⟩ = false := rfl
    have hadmitted : Caller.isAdmitted ⟨media, .admitted (.ingestion settings media)⟩ = true := rfl
    simp only [countP_append_cons_of_not hwaiting] at hpermits
    have hnone : holder? trace = none := by
      rw [hholder]
      refine findIdx?_of_countP ?_
      rw [countP_append_cons_of_not hwaiting]
      omega
    refine ⟨?_, ?_, h.allowed_append hnone⟩
    · simp only [countP_append_cons hadmitted]
      omega
    · -- with a free permit nobody was admitted, so the first admitted caller is the new one
      rw [holder?_append]
      exact (findIdx?_append_cons (by omega) hadmitted).symm
  | @act before after media phase next action permits world changed step =>
    obtain ⟨hphase, hnext⟩ := step.isAdmitted
    have hcaller : Caller.isAdmitted ⟨media, phase⟩ = true := hphase
    have hchanged : Caller.isAdmitted ⟨media, next⟩ = true := hnext
    simp only [countP_append_cons hcaller] at hpermits
    rw [findIdx?_append_cons (by omega) hcaller] at hholder
    -- the count leaves no room for another caller with a permit, so this one is the holder
    obtain ⟨hsame, hallowed⟩ := step.holder_eq (holder? trace) before.length
    refine ⟨?_, ?_, h.allowed_append (hallowed.2 hholder)⟩
    · simp only [countP_append_cons hchanged]
      omega
    · rw [holder?_append, hsame, hholder]
      exact (findIdx?_append_cons (by omega) hchanged).symm
  | @leave before after media ingestion permits world =>
    have hdone : Caller.isAdmitted ⟨media, .admitted (.done ingestion)⟩ = true := rfl
    have hfinished : Caller.isAdmitted ⟨media, .finished ingestion⟩ = false := rfl
    simp only [countP_append_cons hdone] at hpermits
    rw [findIdx?_append_cons (by omega) hdone] at hholder
    refine ⟨?_, ?_, h.allowed_append hholder⟩
    · simp only [countP_append_cons_of_not hfinished]
      omega
    · rw [holder?_append]
      refine (findIdx?_of_countP ?_).symm
      rw [countP_append_cons_of_not hfinished]
      omega

section Runs

variable {settings : Settings} {behaviour : Behaviour σ} {medias : List String} {world : World σ}
  {trace : List Event} {state next : State σ} {event : Event}

theorem Reached.guarded (h : Reached settings behaviour medias world trace state) :
    Guarded trace state := by
  induction h with
  | initial =>
    have hnone : (medias.map fun media => Caller.mk media .waiting).countP Caller.isAdmitted = 0 := by
      simp [Caller.isAdmitted, Phase.isAdmitted]
    exact ⟨by simp [hnone], (findIdx?_of_countP hnone).symm, by simp⟩
  | step _ step ih => exact ih.step step

/-- The callers stay the same, for the same media files. -/
theorem Reached.map_media (h : Reached settings behaviour medias world trace state) :
    state.callers.map Caller.media = medias := by
  induction h with
  | initial =>
    rw [List.map_map]
    exact List.map_id medias
  | step _ step ih => cases step <;> simpa using ih

/-! ## One caller at a time -/

/-- What holds of a caller that waits, and is kept by all that callers do, holds of every caller at
any time. The actions may be limited to some. -/
theorem Reached.forall_callers (holds : Caller → Prop) (limit : Action → Prop)
    (h : Reached settings behaviour medias world trace state)
    (hlimit : ∀ event ∈ trace, limit event.action)
    (hwaiting : ∀ media, holds ⟨media, .waiting⟩)
    (henter : ∀ media, holds ⟨media, .admitted (.ingestion settings media)⟩)
    (hact : ∀ {media phase world action next changed},
      Phase.Step settings behaviour media phase world action next changed → limit action →
      holds ⟨media, phase⟩ → holds ⟨media, next⟩)
    (hleave : ∀ media ingestion, holds ⟨media, .admitted (.done ingestion)⟩ →
      holds ⟨media, .finished ingestion⟩) :
    ∀ caller ∈ state.callers, holds caller := by
  induction h with
  | initial =>
    intro caller hcaller
    obtain ⟨media, -, rfl⟩ := List.mem_map.1 hcaller
    exact hwaiting media
  | @step trace state next event _ step ih =>
    have hbefore := ih fun event hevent => hlimit event (List.mem_append_left _ hevent)
    have hnow := hlimit event (List.mem_append_right _ List.mem_cons_self)
    -- the others are as they were
    have hothers : ∀ {before after : List Caller} {old new : Caller},
        (∀ caller ∈ before ++ old :: after, holds caller) → (holds old → holds new) →
        ∀ caller ∈ before ++ new :: after, holds caller := by
      intro before after old new hall hstep caller hcaller
      rcases List.mem_append.1 hcaller with hmem | hmem
      · exact hall caller (List.mem_append_left _ hmem)
      · rcases List.mem_cons.1 hmem with rfl | hmem
        · exact hstep (hall old (by simp))
        · exact hall caller (by simp [hmem])
    cases step with
    | enter => exact hothers hbefore fun _ => henter _
    | act step => exact hothers hbefore (hact step hnow)
    | leave => exact hothers hbefore (hleave _ _)

/-! ### Extractions in flight -/

/-- A caller has no more to extract at a time than that. -/
def Phase.Within (size : Nat) : Phase → Prop
  | .admitted course => course.Within size
  | .extracting jobs next => jobs.length ≤ size ∧ ∀ answers, (next answers).Within size
  | _ => True

theorem Phase.Step.within {size : Nat} {media : String} {phase next : Phase}
    {world changed : World σ} {action : Action}
    (h : phase.Step settings behaviour media world action next changed)
    (hphase : phase.Within size) : next.Within size := by
  cases h with
  | probe probed => exact hphase _
  | batch => exact ⟨by simpa using hphase.1, hphase.2⟩
  | start started => exact ⟨by simpa using hphase.1, hphase.2⟩
  | finish ended => exact ⟨by simpa using hphase.1, hphase.2⟩
  | resume ended => exact hphase.2 _
  | makeFolders => exact hphase _
  | store => exact hphase _

theorem Phase.underWay_le {size : Nat} {phase : Phase} (h : phase.Within size) :
    phase.underWay ≤ if phase.isAdmitted then size else 0 := by
  cases phase with
  | extracting jobs next => exact Nat.le_trans List.countP_le_length h.1
  | waiting | admitted | finished => exact Nat.zero_le _

/-- Only callers with a permit have extractions in flight. -/
theorem sum_underWay_le {size : Nat} {callers : List Caller}
    (h : ∀ caller ∈ callers, caller.phase.Within size) :
    (callers.map (·.phase.underWay)).sum ≤ size * callers.countP Caller.isAdmitted := by
  induction callers with
  | nil => exact Nat.zero_le _
  | cons caller rest ih =>
    have hrest := ih fun other hother => h other (List.mem_cons_of_mem _ hother)
    have hfirst := Phase.underWay_le (h caller List.mem_cons_self)
    rw [List.map_cons, List.sum_cons, List.countP_cons]
    by_cases hadmitted : caller.isAdmitted
    · have hphase : caller.phase.isAdmitted = true := hadmitted
      rw [if_pos hphase] at hfirst
      rw [if_pos hadmitted, Nat.mul_add, Nat.mul_one]
      omega
    · have hphase : ¬ caller.phase.isAdmitted = true := hadmitted
      rw [if_neg hphase] at hfirst
      rw [if_neg hadmitted, Nat.add_zero]
      omega

/-- **All callers together stay within one batch.** -/
theorem Reached.inFlight_le (h : Reached settings behaviour medias world trace state) :
    state.inFlight ≤ max 1 settings.batchSize := by
  have hwithin : ∀ caller ∈ state.callers, caller.phase.Within (max 1 settings.batchSize) :=
    h.forall_callers _ (fun _ => True) (fun _ _ => trivial) (fun _ => trivial)
      (fun media => Course.within_ingestion settings media) (fun step _ => step.within)
      (fun _ _ _ => trivial)
  have hsum := sum_underWay_le hwithin
  have hone : state.callers.countP Caller.isAdmitted ≤ 1 := by
    have hpermits := h.guarded.permits
    omega
  calc state.inFlight
      ≤ max 1 settings.batchSize * state.callers.countP Caller.isAdmitted := hsum
    _ ≤ max 1 settings.batchSize * 1 := Nat.mul_le_mul_left _ hone
    _ = max 1 settings.batchSize := Nat.mul_one _

def Action.isStart : Action → Bool
  | .start _ => true
  | _ => false

def Action.isFinish : Action → Bool
  | .finish _ => true
  | _ => false

/-- A step starts an extraction, or ends one, or leaves what is under way. -/
theorem Phase.Step.underWay_eq {media : String} {phase next : Phase} {world changed : World σ}
    {action : Action} (h : phase.Step settings behaviour media world action next changed) :
    next.underWay + action.isFinish.toNat = phase.underWay + action.isStart.toNat := by
  cases h with
  | probe | makeFolders | store => rfl
  | batch =>
    have hidle : ∀ batch : List Extraction,
        (batch.map fun extraction => Job.mk extraction .idle).countP Job.isUnderWay = 0 := by
      intro batch
      rw [List.countP_map]
      exact List.countP_eq_zero.2 fun _ _ => Bool.false_ne_true
    exact hidle _
  | start started =>
    simp only [Phase.underWay, List.countP_append, List.countP_cons, Job.isUnderWay,
      Action.isStart, Action.isFinish, if_true, Bool.false_eq_true, if_false, Bool.toNat_true,
      Bool.toNat_false]
    omega
  | finish ended =>
    simp only [Phase.underWay, List.countP_append, List.countP_cons, Job.isUnderWay,
      Action.isStart, Action.isFinish, if_true, Bool.false_eq_true, if_false, Bool.toNat_true,
      Bool.toNat_false]
    omega
  | @resume jobs answers next world ended =>
    have hended : jobs.countP Job.isUnderWay = 0 := by
      refine List.countP_eq_zero.2 fun job hjob => ?_
      have hstate : job.state ∈ answers.map JobState.ended := ended ▸ List.mem_map_of_mem hjob
      obtain ⟨answer, -, hanswer⟩ := List.mem_map.1 hstate
      simp [Job.isUnderWay, ← hanswer]
    simp only [Phase.underWay, hended]
    rfl

theorem inFlight_append_cons {before after : List Caller} {caller : Caller} {permits : Nat}
    {world : World σ} : State.inFlight ⟨before ++ caller :: after, permits, world⟩ =
      (before.map (·.phase.underWay)).sum + (after.map (·.phase.underWay)).sum +
        caller.phase.underWay := by
  simp only [State.inFlight, List.map_append, List.map_cons, List.sum_append, List.sum_cons]
  omega

/-- What is in flight was started and has not ended. -/
theorem Reached.countP_isStart (h : Reached settings behaviour medias world trace state) :
    trace.countP (·.action.isStart) = trace.countP (·.action.isFinish) + state.inFlight := by
  induction h with
  | initial => simp [State.inFlight, Phase.underWay, Function.comp_def]
  | @step trace state next event _ step ih =>
    have hstep : next.inFlight + event.action.isFinish.toNat =
        state.inFlight + event.action.isStart.toNat := by
      cases step with
      | enter | leave => simp only [inFlight_append_cons, Phase.underWay, Action.isStart,
          Action.isFinish]
      | act step =>
        have hunderWay := step.underWay_eq
        simp only [inFlight_append_cons]
        omega
    rw [List.countP_append, List.countP_append, List.countP_singleton, List.countP_singleton]
    simp only [Bool.toNat, Bool.cond_eq_ite] at hstep
    omega

/-! ### What callers come to -/

/-- Tools that probe and extract by functions of the media file. -/
structure Behaviour.AnswersBy (behaviour : Behaviour σ)
    (report : String → Except Fault ProbeReport)
    (answer : String → Extraction → Except Fault String) : Prop where
  probe : ∀ {media world given changed}, behaviour.probe media world given changed →
    given = report media
  finish : ∀ {media extraction world given changed},
    behaviour.finish media extraction world given changed → given = answer media extraction

def Action.Succeeds : Action → Prop
  | .makeFolders outcome | .store _ outcome => outcome = .ok ()
  | _ => True

/-- A caller is on its way to an ingestion. -/
def Phase.ComesTo (report : Except Fault ProbeReport) (answer : Extraction → Except Fault String)
    (ingestion : Ingestion) : Phase → Prop
  | .waiting => True
  | .admitted course => course.value report answer = ingestion
  | .extracting jobs next =>
    (next (jobs.map fun job => answer job.extraction)).value report answer = ingestion ∧
      ∀ job ∈ jobs, ∀ given, job.state = .ended given → given = answer job.extraction
  | .finished result => result = ingestion

/-- Answers that are all there are those of the function. -/
theorem answers_eq {answer : Extraction → Except Fault String} {jobs : List Job} :
    ∀ {answers : List (Except Fault String)}, jobs.map Job.state = answers.map .ended →
      (∀ job ∈ jobs, ∀ given, job.state = .ended given → given = answer job.extraction) →
      answers = jobs.map fun job => answer job.extraction := by
  induction jobs with
  | nil =>
    intro answers h _
    exact List.map_eq_nil_iff.1 h.symm
  | cons job rest ih =>
    intro answers h hgiven
    cases answers with
    | nil => cases h
    | cons first others =>
      obtain ⟨hfirst, hothers⟩ := List.cons.inj h
      rw [List.map_cons, ← ih hothers fun other hother => hgiven other (List.mem_cons_of_mem _ hother),
        ← hgiven job List.mem_cons_self first hfirst]

/-- With answers by functions, and a disk that does as it is told, no step leads astray. -/
theorem Phase.Step.comesTo {report : String → Except Fault ProbeReport}
    {answer : String → Extraction → Except Fault String} {ingestion : Ingestion} {media : String}
    {phase next : Phase} {world changed : World σ} {action : Action}
    (hanswers : behaviour.AnswersBy report answer)
    (h : phase.Step settings behaviour media world action next changed) (hsucceeds : action.Succeeds)
    (hphase : phase.ComesTo (report media) (answer media) ingestion) :
    next.ComesTo (report media) (answer media) ingestion := by
  cases h with
  | probe probed =>
    obtain rfl := hanswers.probe probed
    exact hphase
  | batch =>
    refine ⟨?_, fun job hjob given hgiven => ?_⟩
    · rw [List.map_map]
      exact hphase
    · obtain ⟨extraction, -, rfl⟩ := List.mem_map.1 hjob
      cases hgiven
  | start started =>
    obtain ⟨hvalue, hgiven⟩ := hphase
    refine ⟨by simpa using hvalue, fun job hjob given hended => ?_⟩
    rcases List.mem_append.1 hjob with hmem | hmem
    · exact hgiven job (List.mem_append_left _ hmem) given hended
    · rcases List.mem_cons.1 hmem with rfl | hmem
      · cases hended
      · exact hgiven job (by simp [hmem]) given hended
  | finish ended =>
    obtain ⟨hvalue, hgiven⟩ := hphase
    refine ⟨by simpa using hvalue, fun job hjob given hended => ?_⟩
    rcases List.mem_append.1 hjob with hmem | hmem
    · exact hgiven job (List.mem_append_left _ hmem) given hended
    · rcases List.mem_cons.1 hmem with rfl | hmem
      · -- the answer that has just come
        cases hended
        exact hanswers.finish ended
      · exact hgiven job (by simp [hmem]) given hended
  | resume ended =>
    obtain ⟨hvalue, hgiven⟩ := hphase
    rw [answers_eq ended hgiven]
    exact hvalue
  | makeFolders =>
    simp only [Action.Succeeds] at hsucceeds
    rw [hsucceeds]
    exact hphase
  | store =>
    simp only [Action.Succeeds] at hsucceeds
    rw [hsucceeds]
    exact hphase

/-- **Every caller comes to the value of its course**, whatever the others do. -/
theorem Reached.comesTo {report : String → Except Fault ProbeReport}
    {answer : String → Extraction → Except Fault String}
    (h : Reached settings behaviour medias world trace state)
    (hanswers : behaviour.AnswersBy report answer)
    (hsucceeds : ∀ event ∈ trace, event.action.Succeeds) :
    ∀ caller ∈ state.callers, caller.phase.ComesTo (report caller.media) (answer caller.media)
      ((Course.ingestion settings caller.media).value (report caller.media)
        (answer caller.media)) :=
  h.forall_callers _ Action.Succeeds hsucceeds (fun _ => trivial) (fun _ => rfl)
    (fun step hnow hphase => step.comesTo hanswers hnow hphase) fun _ _ hdone => hdone

end Runs

end TrackSelect.Admission
