import Mathlib.Data.List.Induction
import TrackSelect.Proofs.ForeignAudio.Reordering

/-!
# Searches in steps

A search has the extractions of one batch under way at a time, and these end in any order. `Step`
has the two things that can happen: the next batch is started when no extraction is under way, or
some extraction ends. `Reached` is what comes of that, with the trace of what was seen on the way.

`After` is what every step keeps: a search is between two batches of its pool, every job has no
answer but its own, and what was gathered of the batches before is what their tracks come to one
after the other. So the order of the endings shows in the trace and nowhere else. In the end the
pick is that of `search`, whatever the size of the batches was (`search_scheduled`), and `peak` is
the largest number of texts that are under way on the way there (`underWay_peak`).
-/

namespace TrackSelect.ForeignAudio

/-! ## Batches -/

section Batches

variable {α : Type} {size : Nat}

/-- No batch is empty. -/
theorem nil_notMem_batches (size : Nat) (l : List α) : [] ∉ batches size l := by
  fun_induction batches size l with
  | case1 => exact List.not_mem_nil
  | case2 a rest ih =>
    rw [List.mem_cons, not_or]
    exact ⟨(List.cons_ne_nil _ _).symm, ih⟩

/-- A batch has at most as many elements as it should, where zero counts as one. -/
theorem length_le_of_mem_batches (size : Nat) (l : List α) :
    ∀ batch ∈ batches size l, batch.length ≤ max 1 size := by
  fun_induction batches size l with
  | case1 => simp
  | case2 a rest ih =>
    intro batch hbatch
    rcases List.mem_cons.1 hbatch with rfl | hbatch
    · rw [List.length_cons, List.length_take]
      omega
    · exact ih batch hbatch

/-- Elements are cut into batches whatever they are. -/
theorem batches_map {β : Type} (f : α → β) (size : Nat) (l : List α) :
    batches size (l.map f) = (batches size l).map (List.map f) := by
  fun_induction batches size l with
  | case1 => rw [List.map_nil, batches, List.map_nil]
  | case2 a rest ih =>
    rw [List.map_cons, batches, ← List.map_take, ← List.map_drop, ih]
    rfl

/-- Batches that another one comes after are full. -/
theorem length_flatten_of_batches {l : List α} :
    ∀ {earlier : List (List α)} {batch : List α} {later : List (List α)},
      batches size l = earlier ++ batch :: later →
        earlier.flatten.length = earlier.length * max 1 size := by
  fun_induction batches size l with
  | case1 => simp
  | case2 a rest ih =>
    intro earlier batch later h
    cases earlier with
    | nil => simp
    | cons first earlier =>
      obtain ⟨rfl, hrest⟩ := List.cons.inj h
      -- there is a next batch, so the first one did not take all there is
      have hlong : size - 1 < rest.length := by
        rw [← Nat.not_le, ← List.drop_eq_nil_iff]
        intro hnil
        simp [hnil, batches] at hrest
      rw [List.flatten_cons, List.length_append, ih hrest, List.length_cons, List.length_take,
        List.length_cons, Nat.succ_mul]
      omega

/-- The number of a batch can be told by the place of each of its elements. -/
theorem div_of_mem_batch {l : List α} {earlier : List (List (α × Nat))} {batch : List (α × Nat)}
    {later : List (List (α × Nat))} (h : batches size l.zipIdx = earlier ++ batch :: later)
    {entry : α × Nat} (hentry : entry ∈ batch) : entry.2 / max 1 size = earlier.length := by
  have hflatten : l.zipIdx = earlier.flatten ++ (batch ++ later.flatten) := by
    rw [← flatten_batches size l.zipIdx, h, List.flatten_append, List.flatten_cons]
  obtain ⟨before, others, -, hbefore, hothers⟩ := List.zipIdx_eq_append_iff.1 hflatten
  obtain ⟨own, after, -, hown, -⟩ := List.zipIdx_eq_append_iff.1 hothers.symm
  have hstart : before.length = earlier.length * max 1 size := by
    rw [← length_flatten_of_batches h, hbefore, List.length_zipIdx]
  have hshort : own.length ≤ max 1 size := by
    have hle := length_le_of_mem_batches size l.zipIdx batch (by simp [h])
    rwa [hown, List.length_zipIdx] at hle
  rw [hown] at hentry
  have hlow := List.le_snd_of_mem_zipIdx hentry
  have hhigh := List.snd_lt_add_of_mem_zipIdx hentry
  refine Nat.div_eq_of_lt_le (by omega) ?_
  rw [Nat.succ_mul]
  omega

/-- The places of some first batches are those with a lower number. -/
theorem mem_of_div_lt {l : List α} {gone rest : List (List (α × Nat))}
    (h : batches size l.zipIdx = gone ++ rest) {place : Nat} (hplace : place < l.length)
    (hlt : place / max 1 size < gone.length) : place ∈ gone.flatten.map Prod.snd := by
  have hmem : (l[place], place) ∈ (gone ++ rest).flatten := by
    rw [← h, flatten_batches, List.mk_mem_zipIdx_iff_getElem?]
    exact List.getElem?_eq_getElem hplace
  rw [List.flatten_append, List.mem_append] at hmem
  rcases hmem with hgone | hrest
  · exact List.mem_map_of_mem hgone
  · obtain ⟨batch, hbatch, hentry⟩ := List.mem_flatten.1 hrest
    obtain ⟨before, after, rfl⟩ := List.append_of_mem hbatch
    rw [← List.append_assoc] at h
    have hnumber := div_of_mem_batch h hentry
    rw [List.length_append] at hnumber
    simp only at hnumber
    omega

end Batches

/-! ## Steps -/

/-- What is seen of a search: the extraction for the track at a place of the pool is started, and it
ends. -/
inductive Event where
  | started (place : Nat) (extraction : Extraction)
  | ended (place : Nat)
deriving DecidableEq, Repr

namespace Event

/-- An extraction that is started, with its place. -/
def started? : Event → Option (Nat × Extraction)
  | started place extraction => some (place, extraction)
  | ended _ => none

/-- The place of an extraction that ends. -/
def ended? : Event → Option Nat
  | started _ _ => none
  | ended place => some place

end Event

/-- The extraction for a track, and its answer once it has ended. -/
structure Job where
  track : Track
  place : Nat
  answer? : Option (Except Fault String) := none

namespace Job

/-- The track with its place. -/
def entry (job : Job) : Track × Nat := (job.track, job.place)

/-- The extraction that is started for a track. -/
def ofEntry (entry : Track × Nat) : Job where
  track := entry.1
  place := entry.2

/-- The track with its answer. -/
def answered? (job : Job) : Option (Track × Except Fault String) :=
  job.answer?.map fun answer => (job.track, answer)

end Job

/-- How far a search has come. -/
structure Progress where
  /-- The batches that have not been started. -/
  waiting : List (List (Track × Nat))
  /-- The batch that was started last. -/
  batch : List Job := []
  /-- What was counted in the batches before. -/
  tally : Tally := {}

variable (setting : Setting) (pool : List Track) (answer : Nat → Except Fault String)

namespace Progress

/-- A search of a pool before its first step. -/
def initial : Progress where
  waiting := batches setting.batchSize pool.zipIdx

/-- The extractions that are under way. -/
def underWay (progress : Progress) : List Job := progress.batch.filter (·.answer?.isNone)

/-- What has been counted, with what has ended of the last batch, in the order of the pool. -/
def gathered (progress : Progress) : Tally :=
  (progress.batch.filterMap Job.answered?).foldl
    (fun tally (track, answer) => tally.add setting track answer) progress.tally

/-- The result of a search that has come to its end. -/
def pick (progress : Progress) : Pick :=
  ⟨pickSparse (progress.gathered setting).counts, (progress.gathered setting).failures⟩

end Progress

/-- One step of a search, and what is seen of it. The answer for the track at each place is given. -/
inductive Step : Progress → List Event → Progress → Prop where
  /-- A batch is started when no extraction is under way. -/
  | start {progress : Progress} {batch : List (Track × Nat)} {rest : List (List (Track × Nat))}
    (idle : progress.underWay = []) (next : progress.waiting = batch :: rest) :
    Step progress (batch.map fun (track, place) => .started place (extraction setting track))
      { waiting := rest
        batch := batch.map .ofEntry
        tally := progress.gathered setting }
  /-- Any extraction that is under way ends. -/
  | finish {progress : Progress} {before after : List Job} {job : Job}
    (jobs : progress.batch = before ++ job :: after) (underWay : job.answer? = none) :
    Step progress [.ended job.place]
      { progress with batch := before ++ { job with answer? := answer job.place } :: after }

/-- What a search of a pool can come to, and its trace. -/
inductive Reached : List Event → Progress → Prop where
  | initial : Reached [] (.initial setting pool)
  | step {trace events : List Event} {progress next : Progress}
    (reached : Reached trace progress) (step : Step setting answer progress events next) :
    Reached (trace ++ events) next

/-- A search that has come to its end: there is nothing that can happen any more. -/
def IsOver (progress : Progress) : Prop :=
  ∀ events next, ¬ Step setting answer progress events next

/-! ## One by one -/

/-- What some tracks with their places come to, one after the other. -/
def tallyOf (entries : List (Track × Nat)) : Tally :=
  (entries.map fun (track, place) => (track, answer place)).foldl
    (fun tally (track, answer) => tally.add setting track answer) {}

/-- The pick that a pool comes to when it is extracted track by track, in its order. -/
def pickOneByOne : Pick :=
  let tally := tallyOf setting answer pool.zipIdx
  ⟨pickSparse tally.counts, tally.failures⟩

/-! ## What steps keep -/

/-- A search has started the batches `gone` of its pool, and `past` are the tracks that it had
counted when it started the last of them. -/
structure After (trace : List Event) (progress : Progress) (gone : List (List (Track × Nat)))
    (past : List (Track × Nat)) : Prop where
  batches : batches setting.batchSize pool.zipIdx = gone ++ progress.waiting
  jobs : gone.flatten = past ++ progress.batch.map Job.entry
  batch : progress.batch.map Job.entry = [] ∨
    progress.batch.map Job.entry ∈ ForeignAudio.batches setting.batchSize pool.zipIdx
  tally : progress.tally = tallyOf setting answer past
  /-- An answer is that of the own place, whenever it came. -/
  answers : ∀ job ∈ progress.batch, ∀ given, job.answer? = some given → given = answer job.place
  started : trace.filterMap Event.started? =
    gone.flatten.map fun (track, place) => (place, extraction setting track)
  ended : (trace.filterMap Event.ended?).Perm
    (past.map Prod.snd ++ (progress.batch.filter (·.answer?.isSome)).map Job.place)
  ordered : ∀ before place extraction after,
    trace = before ++ .started place extraction :: after →
      ∀ earlier, earlier / max 1 setting.batchSize < place / max 1 setting.batchSize →
        .ended earlier ∈ before

variable {setting pool answer} {trace events : List Event} {progress next : Progress}
  {gone : List (List (Track × Nat))} {past : List (Track × Nat)}

/-- An ending is told by its place. -/
theorem Event.mem_of_ended? {place : Nat} (h : place ∈ trace.filterMap Event.ended?) :
    Event.ended place ∈ trace := by
  obtain ⟨event, hevent, hplace⟩ := List.mem_filterMap.1 h
  cases event with
  | started _ _ => cases hplace
  | ended _ =>
    cases hplace
    exact hevent

/-- What is seen in a longer trace was seen before, or else it is new. -/
theorem Event.split_append {old new before after : List Event} {event : Event}
    (h : old ++ new = before ++ event :: after) :
    (∃ rest, old = before ++ event :: rest) ∨ event ∈ new ∧ old ⊆ before := by
  rcases List.append_eq_append_iff.1 h with ⟨more, rfl, hnew⟩ | ⟨more, rfl, hmore⟩
  · exact .inr ⟨by simp [hnew], List.subset_append_left old more⟩
  · cases more with
    | nil =>
      rw [List.nil_append] at hmore
      rw [List.append_nil]
      exact .inr ⟨hmore ▸ List.mem_cons_self, fun _ hmem => hmem⟩
    | cons first more =>
      obtain ⟨rfl, -⟩ := List.cons.inj hmore
      exact .inl ⟨more, rfl⟩

namespace After

/-- No batch has been started yet. -/
theorem initial : After setting pool answer [] (.initial setting pool) [] [] where
  batches := rfl
  jobs := rfl
  batch := .inl rfl
  tally := rfl
  answers _ h := absurd h List.not_mem_nil
  started := rfl
  ended := List.Perm.refl []
  ordered before place extraction after h := by simp at h

/-! ### When no extraction is under way -/

/-- All jobs have their answers. -/
theorem answer?_eq (h : After setting pool answer trace progress gone past)
    (idle : progress.underWay = []) {job : Job} (hjob : job ∈ progress.batch) :
    job.answer? = some (answer job.place) := by
  have hended := List.filter_eq_nil_iff.1 idle job hjob
  rw [Option.isNone_iff_eq_none, ← Ne, Option.ne_none_iff_exists'] at hended
  obtain ⟨given, hgiven⟩ := hended
  rw [hgiven, h.answers job hjob given hgiven]

/-- What has been gathered is what comes of all that was started, one by one. -/
theorem gathered_eq (h : After setting pool answer trace progress gone past)
    (idle : progress.underWay = []) :
    progress.gathered setting = tallyOf setting answer gone.flatten := by
  have hanswered : progress.batch.filterMap Job.answered? =
      (progress.batch.map Job.entry).map fun (track, place) => (track, answer place) := by
    rw [List.map_map, ← List.filterMap_eq_map]
    refine List.filterMap_congr fun job hjob => ?_
    rw [Job.answered?, h.answer?_eq idle hjob]
    rfl
  rw [Progress.gathered, hanswered, h.tally, h.jobs, tallyOf, tallyOf, List.map_append,
    List.foldl_append]

/-- All that was started has ended. -/
theorem ended_perm (h : After setting pool answer trace progress gone past)
    (idle : progress.underWay = []) :
    (trace.filterMap Event.ended?).Perm (gone.flatten.map Prod.snd) := by
  have hall : progress.batch.filter (·.answer?.isSome) = progress.batch :=
    List.filter_eq_self.2 fun job hjob => by rw [h.answer?_eq idle hjob, Option.isSome_some]
  have hended := h.ended
  rw [hall] at hended
  rw [h.jobs, List.map_append, List.map_map]
  exact hended

/-! ### Steps -/

/-- The invariant when a batch is started. -/
theorem start (h : After setting pool answer trace progress gone past)
    {batch : List (Track × Nat)} {rest : List (List (Track × Nat))}
    (idle : progress.underWay = []) (next : progress.waiting = batch :: rest) :
    After setting pool answer
      (trace ++ batch.map fun (track, place) => .started place (extraction setting track))
      { waiting := rest
        batch := batch.map .ofEntry
        tally := progress.gathered setting } (gone ++ [batch]) gone.flatten := by
  have hbatches := h.batches
  rw [next] at hbatches
  have hentries : (batch.map Job.ofEntry).map Job.entry = batch := by
    rw [List.map_map]
    exact List.map_id batch
  constructor
  case batches => rw [hbatches, List.append_assoc, List.singleton_append]
  case jobs => rw [List.flatten_append, List.flatten_singleton, hentries]
  case batch =>
    rw [hentries, hbatches]
    exact .inr (List.mem_append_right gone List.mem_cons_self)
  case tally => exact h.gathered_eq idle
  case answers =>
    intro job hjob given hgiven
    obtain ⟨entry, -, rfl⟩ := List.mem_map.1 hjob
    cases hgiven
  case started =>
    have hstarted : (batch.map fun (track, place) =>
        Event.started place (extraction setting track)).filterMap Event.started? =
          batch.map fun (track, place) => (place, extraction setting track) := by
      rw [List.filterMap_map, ← List.filterMap_eq_map]
      rfl
    rw [List.filterMap_append, h.started, hstarted, List.flatten_append, List.flatten_singleton,
      List.map_append]
  case ended =>
    have hended : (batch.map fun (track, place) =>
        Event.started place (extraction setting track)).filterMap Event.ended? = [] := by
      simp [List.filterMap_map, Event.ended?, Function.comp_def]
    have hnone : (batch.map Job.ofEntry).filter (·.answer?.isSome) = [] := by
      simp [List.filter_map, Job.ofEntry, Function.comp_def]
    rw [List.filterMap_append, hended, hnone, List.append_nil, List.map_nil, List.append_nil]
    exact h.ended_perm idle
  case ordered =>
    intro before place extraction after htrace earlier hlt
    rcases Event.split_append htrace with ⟨rest', hold⟩ | ⟨hnew, hsubset⟩
    · exact h.ordered before place extraction rest' hold earlier hlt
    · -- the batch has the next number, so what has a lower one was started before and has ended
      obtain ⟨entry, hentry, hevent⟩ := List.mem_map.1 hnew
      have hplace : entry.2 = place := (Event.started.inj hevent).1
      have hnumber := div_of_mem_batch hbatches hentry
      rw [hplace] at hnumber
      have hpool : place < pool.length := by
        have hin : entry ∈ pool.zipIdx := by
          rw [← flatten_batches setting.batchSize pool.zipIdx, hbatches]
          simp [hentry]
        have hbound := List.snd_lt_add_of_mem_zipIdx hin
        omega
      have hearlier : earlier < pool.length :=
        Nat.lt_trans (Nat.lt_of_div_lt_div hlt) hpool
      have hmem := mem_of_div_lt hbatches hearlier (hnumber ▸ hlt)
      exact hsubset (Event.mem_of_ended? ((h.ended_perm idle).mem_iff.2 hmem))

/-- The invariant when an extraction ends. -/
theorem finish (h : After setting pool answer trace progress gone past)
    {before after : List Job} {job : Job} (jobs : progress.batch = before ++ job :: after)
    (underWay : job.answer? = none) :
    After setting pool answer (trace ++ [.ended job.place])
      { progress with batch := before ++ { job with answer? := answer job.place } :: after }
      gone past := by
  have hentries : (before ++ { job with answer? := answer job.place } :: after).map Job.entry =
      progress.batch.map Job.entry := by
    rw [jobs, List.map_append, List.map_append]
    rfl
  constructor
  case batches => exact h.batches
  case jobs => rw [h.jobs, hentries]
  case batch =>
    rw [hentries]
    exact h.batch
  case tally => exact h.tally
  case answers =>
    intro other hother given hgiven
    rcases List.mem_append.1 hother with hbefore | hafter
    · exact h.answers other (by simp [jobs, hbefore]) given hgiven
    · rcases List.mem_cons.1 hafter with rfl | hafter
      · exact (Option.some.inj hgiven).symm
      · exact h.answers other (by simp [jobs, hafter]) given hgiven
  case started =>
    rw [List.filterMap_append, h.started]
    exact List.append_nil _
  case ended =>
    have hended := h.ended
    rw [jobs] at hended
    simp only [List.filterMap_append, List.filterMap_cons, List.filterMap_nil, Event.ended?,
      List.filter_append, List.filter_cons, underWay, Option.isSome_none, Option.isSome_some,
      if_true, Bool.false_eq_true, if_false, List.map_append, List.map_cons] at hended ⊢
    refine (hended.append_right [job.place]).trans ?_
    rw [List.append_assoc, List.append_assoc]
    exact (List.perm_append_comm.append_left _).append_left _
  case ordered =>
    intro seen place extraction later htrace earlier hlt
    rcases Event.split_append htrace with ⟨rest, hold⟩ | ⟨hnew, -⟩
    · exact h.ordered seen place extraction rest hold earlier hlt
    · simp at hnew

/-! ### What is under way -/

/-- No more is under way than a batch has. -/
theorem underWay_le (h : After setting pool answer trace progress gone past) :
    progress.underWay.length ≤ max 1 setting.batchSize := by
  refine Nat.le_trans (List.length_filter_le _ _) ?_
  rw [← List.length_map Job.entry]
  rcases h.batch with hnone | hbatch
  · rw [hnone]
    exact Nat.zero_le _
  · exact length_le_of_mem_batches _ _ _ hbatch

/-- What is under way was started and has not ended. -/
theorem started_length (h : After setting pool answer trace progress gone past) :
    (trace.filterMap Event.started?).length =
      (trace.filterMap Event.ended?).length + progress.underWay.length := by
  have hjobs := List.length_eq_length_filter_add (l := progress.batch) (·.answer?.isSome)
  have hpending : progress.batch.filter (!·.answer?.isSome) = progress.underWay :=
    List.filter_congr fun job _ => by cases job.answer? <;> rfl
  rw [hpending] at hjobs
  rw [h.started, h.ended.length_eq, h.jobs]
  simp only [List.length_append, List.length_map]
  omega

/-- No more is started than there is in the pool. -/
theorem started_le (h : After setting pool answer trace progress gone past) :
    (trace.filterMap Event.started?).length ≤ pool.length := by
  have hflatten := congrArg (List.length ∘ List.flatten) h.batches
  simp only [Function.comp_apply, flatten_batches, List.length_zipIdx, List.flatten_append,
    List.length_append] at hflatten
  rw [h.started, List.length_map]
  omega

end After

/-- Every event is a start or an ending. -/
theorem Event.length_eq (trace : List Event) :
    trace.length = (trace.filterMap started?).length + (trace.filterMap ended?).length := by
  induction trace with
  | nil => rfl
  | cons event rest ih =>
    cases event <;>
      simp only [List.filterMap_cons, started?, ended?, List.length_cons, ih] <;> omega

/-- **The invariant holds of every search.** -/
theorem Reached.after (h : Reached setting pool answer trace progress) :
    ∃ gone past, After setting pool answer trace progress gone past := by
  induction h with
  | initial => exact ⟨[], [], After.initial⟩
  | step _ step ih =>
    obtain ⟨gone, past, h⟩ := ih
    cases step with
    | start idle next => exact ⟨_, _, h.start idle next⟩
    | finish jobs underWay => exact ⟨_, _, h.finish jobs underWay⟩

/-! ## The end of a search -/

/-- A search is over when all batches have been started and all extractions have ended: there is no
other way for it to get stuck. -/
theorem isOver_iff : IsOver setting answer progress ↔
    progress.waiting = [] ∧ progress.underWay = [] := by
  constructor
  · intro hover
    have hidle : progress.underWay = [] := by
      refine List.eq_nil_iff_forall_not_mem.2 fun job hjob => ?_
      obtain ⟨hmem, hpending⟩ := List.mem_filter.1 hjob
      obtain ⟨before, after, hjobs⟩ := List.append_of_mem hmem
      exact hover _ _ (.finish hjobs (Option.isNone_iff_eq_none.1 hpending))
    refine ⟨?_, hidle⟩
    cases hwaiting : progress.waiting with
    | nil => rfl
    | cons batch rest => exact absurd (.start hidle hwaiting) (hover _ _)
  · rintro ⟨hwaiting, hidle⟩ events next step
    cases step with
    | start idle next => simp [hwaiting] at next
    | @finish before after job jobs underWay =>
      have hjob : job ∈ progress.underWay := List.mem_filter.2 ⟨by simp [jobs], by simp [underWay]⟩
      simp [hidle] at hjob

/-- Something is seen of every step. -/
theorem Reached.ne_nil (h : Reached setting pool answer trace progress)
    (step : Step setting answer progress events next) : events ≠ [] := by
  cases step with
  | @start batch rest idle next =>
    obtain ⟨gone, past, h⟩ := h.after
    have hbatch : batch ∈ batches setting.batchSize pool.zipIdx := by simp [h.batches, next]
    rw [Ne, List.map_eq_nil_iff]
    rintro rfl
    exact nil_notMem_batches _ _ hbatch
  | finish => exact List.cons_ne_nil _ _

/-- A trace has a start and an ending for each track at most. -/
theorem Reached.length_le (h : Reached setting pool answer trace progress) :
    trace.length ≤ 2 * pool.length := by
  obtain ⟨gone, past, h⟩ := h.after
  have hlength := Event.length_eq trace
  have hstarted := h.started_length
  have hpool := h.started_le
  omega

/-- **Every search can be brought to its end**, however it went so far. -/
theorem Reached.exists_isOver (h : Reached setting pool answer trace progress) :
    ∃ more last, Reached setting pool answer (trace ++ more) last ∧ IsOver setting answer last := by
  induction hleft : 2 * pool.length - trace.length using Nat.strong_induction_on
    generalizing trace progress with
  | _ left ih =>
    by_cases hover : IsOver setting answer progress
    · exact ⟨[], progress, by rwa [List.append_nil], hover⟩
    · simp only [IsOver, not_forall, not_not] at hover
      obtain ⟨events, next, step⟩ := hover
      have hnext := h.step step
      have hevents := List.length_pos_iff.2 (h.ne_nil step)
      have hlength := hnext.length_le
      rw [List.length_append] at hlength
      obtain ⟨more, last, hlast, hover⟩ := ih _ (by rw [List.length_append]; omega) hnext rfl
      exact ⟨events ++ more, last, by rwa [← List.append_assoc], hover⟩

variable (setting pool answer trace progress) in
/-- What a search has done at its end. -/
structure HasSearched : Prop where
  /-- The extraction for each track of the pool was started once, in the order of the pool. -/
  started : trace.filterMap Event.started? = pool.zipIdx.map fun (track, place) =>
    (place, if track.isImage setting.imageCodecs then .ocr track.index
      else .transcript track.index format)
  /-- Each of them has ended once. -/
  ended : (trace.filterMap Event.ended?).Perm (List.range pool.length)
  /-- The pick is what comes of the tracks one by one. -/
  pick : progress.pick setting = pickOneByOne setting pool answer

/-- **A search that is over has searched its pool**, in whatever order the extractions ended. -/
theorem Reached.hasSearched (h : Reached setting pool answer trace progress)
    (hover : IsOver setting answer progress) : HasSearched setting pool answer trace progress := by
  obtain ⟨gone, past, h⟩ := h.after
  obtain ⟨hwaiting, hidle⟩ := isOver_iff.1 hover
  have hgone : gone.flatten = pool.zipIdx := by
    rw [← flatten_batches setting.batchSize pool.zipIdx, h.batches, hwaiting, List.append_nil]
  constructor
  case started =>
    rw [h.started, hgone]
    rfl
  case ended =>
    have hended := h.ended_perm hidle
    rwa [hgone, List.zipIdx_map_snd, ← List.range_eq_range'] at hended
  case pick =>
    rw [Progress.pick, h.gathered_eq hidle, hgone]
    rfl

/-! ## The search -/

/-- **A search picks what comes of its pool one by one**, if tools answer by a function. -/
theorem search_eq_pickOneByOne {σ : Type} {tools : Toolbox σ}
    {given : Extraction → Except Fault String} (htools : tools.AnswersBy setting.media given)
    (hanswer : ∀ entry ∈ pool.zipIdx, answer entry.2 = given (extraction setting entry.1))
    (world : World σ) :
    (search tools setting pool world).1 = pickOneByOne setting pool answer := by
  have hanswered : pool.zipIdx.map (fun (track, place) => (track, answer place)) =
      pool.map fun track => (track, given (extraction setting track)) := by
    conv_rhs => rw [← List.zipIdx_map_fst 0 pool, List.map_map]
    exact List.map_congr_left fun entry hentry => by simp [hanswer entry hentry]
  rw [search_answersBy htools, pickOneByOne, tallyOf, hanswered, Tally.foldl_add]
  rfl

variable (pool trace progress) in
/-- What holds of a search at any time, if `size` extractions may run at once. -/
structure IsInBatches (setting : Setting) (size : Nat) : Prop where
  bounded : progress.underWay.length ≤ max 1 size
  /-- What is under way was started and has not ended. -/
  underWay : (trace.filterMap Event.started?).length =
    (trace.filterMap Event.ended?).length + progress.underWay.length
  /-- The pool is started in its order, each track once at most. -/
  started : trace.filterMap Event.started? <+: pool.zipIdx.map fun (track, place) =>
    (place, extraction setting track)
  /-- When an extraction is started, those of the batches before have ended. -/
  ordered : ∀ before place extraction after,
    trace = before ++ .started place extraction :: after →
      ∀ earlier, earlier / max 1 size < place / max 1 size → .ended earlier ∈ before
  finite : trace.length ≤ 2 * pool.length

theorem Reached.isInBatches (h : Reached setting pool answer trace progress) :
    IsInBatches pool trace progress setting setting.batchSize := by
  have hfinite := h.length_le
  obtain ⟨gone, past, h⟩ := h.after
  refine ⟨h.underWay_le, h.started_length, ?_, h.ordered, hfinite⟩
  have hgone : gone.flatten <+: pool.zipIdx := by
    rw [← flatten_batches setting.batchSize pool.zipIdx, h.batches, List.flatten_append]
    exact List.prefix_append _ _
  rw [h.started]
  exact hgone.map _

/-- **A search is bounded by its batches, and its pick is not changed by them.** At any time no more
extractions are under way than the size of a batch, and no batch is started before the one before
has ended. In the end every track has been extracted once, and the pick is that of a search which
extracts the pool one by one, whatever the order of the endings and the size of the batches were. -/
theorem search_scheduled (setting : Setting) (pool : List Track)
    (answer : Nat → Except Fault String) (size : Nat) {trace : List Event} {progress : Progress}
    (h : Reached { setting with batchSize := size } pool answer trace progress) :
    IsInBatches pool trace progress setting size ∧
    (∃ more last, Reached { setting with batchSize := size } pool answer (trace ++ more) last ∧
      IsOver { setting with batchSize := size } answer last) ∧
    (IsOver { setting with batchSize := size } answer progress →
      HasSearched setting pool answer trace progress ∧
      ∀ (σ : Type) (tools : Toolbox σ) (given : Extraction → Except Fault String),
        tools.AnswersBy setting.media given →
        (∀ entry ∈ pool.zipIdx, answer entry.2 = given (extraction setting entry.1)) →
        ∀ (other : Nat) (world : World σ),
          (search tools { setting with batchSize := other } pool world).1 =
            progress.pick setting) := by
  obtain ⟨hbounded, hunderWay, hstarted, hordered, hfinite⟩ := h.isInBatches
  refine ⟨⟨hbounded, hunderWay, hstarted, hordered, hfinite⟩, h.exists_isOver, fun hover => ?_⟩
  obtain ⟨hall, hended, hpick⟩ := h.hasSearched hover
  refine ⟨⟨hall, hended, hpick⟩, fun σ tools given htools hanswer other world => ?_⟩
  have hother : tools.AnswersBy { setting with batchSize := other }.media given := htools
  exact (search_eq_pickOneByOne hother hanswer world).trans hpick.symm

/-- A search in batches of two. -/
def pairSetting : Setting := ⟨"film.mkv", ["xsub"], 2⟩

/-- Two subtitles with a text, and one that is a bitmap. -/
def pairPool : List Track :=
  [{ index := 2, kind := .subtitle, codec := "subrip" },
    { index := 3, kind := .subtitle, codec := "subrip" },
    { index := 4, kind := .subtitle, codec := "xsub" }]

/-- No text can be had of the first two subtitles, and the dump of the last is empty. -/
def pairAnswers : Nat → Except Fault String
  | 0 => .error (.extraction 2 "no text")
  | 1 => .error (.extraction 3 "no text")
  | _ => .ok ""

/-- The first extraction may well end after the second. The last failure is that of the second all
the same, and the bitmap subtitle has to wait for both. -/
theorem search_scheduled_secondFirst : ∃ trace progress,
    Reached pairSetting pairPool pairAnswers trace progress ∧
      trace = [.started 0 (.transcript 2 "srt"), .started 1 (.transcript 3 "srt"), .ended 1, .ended 0,
        .started 2 (.ocr 4), .ended 2] ∧
      (progress.pick pairSetting).failures.getLast? = some (.extraction 3 "no text") := by
  have hbatches : (Progress.initial pairSetting pairPool).waiting =
      [[(pairPool[0], 0), (pairPool[1], 1)], [(pairPool[2], 2)]] := by
    simp [Progress.initial, pairSetting, pairPool, batches]
  have hinitial : Reached pairSetting pairPool pairAnswers [] (.initial pairSetting pairPool) :=
    .initial
  have hstarted := hinitial.step (.start rfl hbatches)
  have hsecond := hstarted.step
    (.finish (show _ = [Job.ofEntry (pairPool[0], 0)] ++ _ :: _ from rfl) rfl)
  have hfirst := hsecond.step (.finish (show _ = [] ++ _ :: _ from rfl) rfl)
  have hlast := (hfirst.step (.start rfl rfl)).step (.finish (show _ = [] ++ _ :: _ from rfl) rfl)
  obtain ⟨-, -, hend⟩ := search_scheduled pairSetting pairPool pairAnswers 2 hlast
  refine ⟨_, _, hlast, rfl, ?_⟩
  rw [(hend (isOver_iff.2 ⟨rfl, rfl⟩)).1.pick]
  decide +kernel

/-! ## The peak of a search -/

/-- The largest number of texts in a batch. -/
theorem peak_eq (setting : Setting) (pool : List Track) :
    peak setting pool = (((batches setting.batchSize pool.zipIdx).map
      (List.countP fun entry => !entry.1.isImage setting.imageCodecs)).max?).getD 0 := by
  have hpool : batches setting.batchSize pool =
      (batches setting.batchSize pool.zipIdx).map (List.map Prod.fst) := by
    rw [← batches_map, List.zipIdx_map_fst]
  rw [peak, hpool, List.map_map, List.foldl_max, Nat.zero_max]
  refine congrArg (fun counts => (List.max? counts).getD 0) (List.map_congr_left fun batch _ => ?_)
  rw [Function.comp_apply, List.countP_map]
  rfl

/-- What is under way can be brought to its end, without anything else. -/
theorem Reached.exists_idle (h : Reached setting pool answer trace progress) :
    ∃ trace last, Reached setting pool answer trace last ∧ last.underWay = [] ∧
      last.waiting = progress.waiting := by
  induction hcount : progress.underWay.length generalizing trace progress with
  | zero => exact ⟨trace, progress, h, List.length_eq_zero_iff.1 hcount, rfl⟩
  | succ count ih =>
    obtain ⟨job, hjob⟩ := List.exists_mem_of_length_pos (show 0 < progress.underWay.length by omega)
    obtain ⟨hmem, hpending⟩ := List.mem_filter.1 hjob
    obtain ⟨before, after, hjobs⟩ := List.append_of_mem hmem
    have hnext := h.step (.finish hjobs (Option.isNone_iff_eq_none.1 hpending))
    -- one extraction less is under way then
    have hfewer : (before ++ { job with answer? := answer job.place } :: after).countP
        (·.answer?.isNone) = count := by
      rw [Progress.underWay, ← List.countP_eq_length_filter, hjobs] at hcount
      simp only [List.countP_append, List.countP_cons, hpending, if_true, Option.isNone_some,
        Bool.false_eq_true, if_false] at hcount ⊢
      omega
    obtain ⟨trace, last, hlast, hidle, hwaiting⟩ :=
      ih hnext (List.countP_eq_length_filter.symm.trans hfewer)
    exact ⟨trace, last, hlast, hidle, hwaiting⟩

variable (answer) in
/-- A search comes to every batch. -/
theorem exists_reached {rest : List (List (Track × Nat))}
    (h : batches setting.batchSize pool.zipIdx = gone ++ rest) :
    ∃ trace progress, Reached setting pool answer trace progress ∧ progress.underWay = [] ∧
      progress.waiting = rest := by
  induction gone using List.reverseRecOn generalizing rest with
  | nil => exact ⟨[], .initial setting pool, .initial, rfl, h⟩
  | append_singleton gone batch ih =>
    rw [List.append_assoc] at h
    obtain ⟨trace, progress, hreached, hidle, hwaiting⟩ := ih h
    exact (hreached.step (.start hidle hwaiting)).exists_idle

variable (setting pool answer) in
/-- **The peak is the largest number of texts that are under way at a time.** -/
theorem underWay_peak :
    (∀ trace progress, Reached setting pool answer trace progress →
      (progress.underWay.countP fun job => !job.track.isImage setting.imageCodecs) ≤
        peak setting pool) ∧
    ∃ trace progress, Reached setting pool answer trace progress ∧
      (progress.underWay.countP fun job => !job.track.isImage setting.imageCodecs) =
        peak setting pool := by
  let isText (entry : Track × Nat) : Bool := !entry.1.isImage setting.imageCodecs
  have hpeak := peak_eq setting pool
  constructor
  · intro trace progress h
    obtain ⟨gone, past, h⟩ := h.after
    have hle : progress.underWay.countP (isText ∘ Job.entry) ≤
        (progress.batch.map Job.entry).countP isText := by
      rw [List.countP_map]
      exact List.filter_sublist.countP_le
    refine Nat.le_trans hle ?_
    rcases h.batch with hnone | hbatch
    · rw [hnone]
      exact Nat.zero_le _
    · rw [hpeak]
      exact List.le_max?_getD_of_mem (List.mem_map_of_mem hbatch)
  · cases hmax : ((batches setting.batchSize pool.zipIdx).map (List.countP isText)).max? with
    | none =>
      refine ⟨[], .initial setting pool, .initial, ?_⟩
      rw [hpeak, hmax]
      rfl
    | some most =>
      obtain ⟨batch, hbatch, hcount⟩ := List.mem_map.1 (List.max?_eq_some_iff.1 hmax).1
      obtain ⟨gone, rest, hgone⟩ := List.append_of_mem hbatch
      obtain ⟨trace, progress, hreached, hidle, hwaiting⟩ := exists_reached answer hgone
      refine ⟨_, _, hreached.step (.start hidle hwaiting), ?_⟩
      -- all of the batch is under way as soon as it is started
      have hall : (batch.map Job.ofEntry).filter (·.answer?.isNone) = batch.map Job.ofEntry := by
        simp [List.filter_map, Job.ofEntry, Function.comp_def]
      rw [hpeak, hmax, Option.getD_some, ← hcount, Progress.underWay, hall, List.countP_map]
      rfl

end TrackSelect.ForeignAudio
