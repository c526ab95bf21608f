import Mathlib.Data.List.TakeWhile
import TrackSelect.Proofs.Toolbox.Reporting
import TrackSelect.ForeignAudio

/-!
# Counting without batches

A search sends its pool to the tools in batches and takes in the answers track by track. `answered`
are the tracks with what was answered for each. They are all that the result of a search depends on
(`search_eq`): a track is counted by its own answer (`counted?`), or its answer is a failure
(`uncounted?`), and the order is that of the pool.
-/

namespace TrackSelect.ForeignAudio

variable (setting : Setting)

/-! ## One track -/

/-- A track with the number of its cues, if its answer has one. -/
def counted? (entry : Track × Except Fault String) : Option (Nat × Track) :=
  match entry.2.bind (cueCount (extraction setting entry.1)) with
  | .ok count => some (count, entry.1)
  | .error _ => none

/-- The failure of a track that has no number of cues. -/
def uncounted? (entry : Track × Except Fault String) : Option Fault :=
  match entry.2.bind (cueCount (extraction setting entry.1)) with
  | .ok _ => none
  | .error fault => some fault

/-- Only the track itself is counted. -/
theorem counted?_track {entry : Track × Except Fault String} {count : Nat × Track}
    (h : counted? setting entry = some count) : count.2 = entry.1 := by
  unfold counted? at h
  split at h
  · rw [← Option.some.inj h]
  · cases h

/-- The tally after one more answer: either a number of cues comes to it, or a failure. -/
theorem Tally.add_eq (tally : Tally) (track : Track) (answer : Except Fault String) :
    tally.add setting track answer =
      ⟨tally.counts ++ (counted? setting (track, answer)).toList,
        tally.failures ++ (uncounted? setting (track, answer)).toList⟩ := by
  unfold Tally.add counted? uncounted?
  simp only
  cases answer.bind (cueCount (extraction setting track)) with
  | ok count => simp
  | error fault => simp

/-- The tally after some answers. -/
theorem Tally.foldl_add (entries : List (Track × Except Fault String)) : ∀ tally : Tally,
    entries.foldl (fun tally (track, answer) => tally.add setting track answer) tally =
      ⟨tally.counts ++ entries.filterMap (counted? setting),
        tally.failures ++ entries.filterMap (uncounted? setting)⟩ := by
  induction entries with
  | nil => simp
  | cons entry rest ih =>
    obtain ⟨track, answer⟩ := entry
    intro tally
    simp only [List.foldl_cons, ih, tally.add_eq setting track answer]
    cases hcounted : counted? setting (track, answer) <;>
      cases huncounted : uncounted? setting (track, answer) <;> simp [hcounted, huncounted]

/-! ## All batches -/

/-- Cutting into batches loses nothing and keeps the order. -/
theorem flatten_batches {α : Type} (size : Nat) (pool : List α) :
    (batches size pool).flatten = pool := by
  fun_induction batches size pool with
  | case1 => rfl
  | case2 a rest ih => rw [List.flatten_cons, ih, List.cons_append, List.take_append_drop]

variable {σ : Type} (tools : Toolbox σ)

/-- The tracks of all batches, with what is answered for each. -/
def answered (world : World σ) : List (List Track) → List (Track × Except Fault String)
  | [] => []
  | batch :: rest =>
    let (answers, world) := tools.extractAll setting.media (batch.map (extraction setting)) world
    batch.zip answers ++ answered world rest

/-- Counting all batches is taking in what was answered. -/
theorem countBatches_eq (pools : List (List Track)) : ∀ (tally : Tally) (world : World σ),
    (countBatches tools setting tally world pools).1 =
      (answered setting tools world pools).foldl
        (fun tally (track, answer) => tally.add setting track answer) tally := by
  induction pools with
  | nil => exact fun tally world => rfl
  | cons batch rest ih =>
    intro tally world
    rw [countBatches, answered, List.foldl_append]
    exact ih _ _

/-- **What a search comes to**, by the answers for its pool. -/
theorem search_eq (pool : List Track) (world : World σ) :
    (search tools setting pool world).1 =
      ⟨pickSparse ((answered setting tools world (batches setting.batchSize pool)).filterMap
          (counted? setting)),
        (answered setting tools world (batches setting.batchSize pool)).filterMap
          (uncounted? setting)⟩ := by
  simp only [search, countBatches_eq, Tally.foldl_add, List.nil_append]

/-- Answers go to tracks one by one, as long as there are any. -/
theorem zip_tracks_sublist (batch : List Track) : ∀ answers : List (Except Fault String),
    ((batch.zip answers).map Prod.fst).Sublist batch := by
  induction batch with
  | nil => exact fun answers => List.Sublist.refl _
  | cons track rest ih =>
    intro answers
    cases answers with
    | nil => exact List.nil_sublist _
    | cons answer answers => exact (ih answers).cons_cons track

/-- Only tracks of the batches are answered for, in their order. -/
theorem answered_sublist (pools : List (List Track)) : ∀ world : World σ,
    ((answered setting tools world pools).map Prod.fst).Sublist pools.flatten := by
  induction pools with
  | nil => exact fun world => List.Sublist.refl _
  | cons batch rest ih =>
    intro world
    rw [answered, List.map_append, List.flatten_cons]
    exact (zip_tracks_sublist batch _).append (ih _)

/-- Tools that answer by a function answer for every track, whatever batch it is in. -/
theorem answered_of_answersBy {answer : Extraction → Except Fault String}
    (h : tools.AnswersBy setting.media answer) (pools : List (List Track)) : ∀ world : World σ,
    answered setting tools world pools =
      pools.flatten.map fun track => (track, answer (extraction setting track)) := by
  induction pools with
  | nil => exact fun world => rfl
  | cons batch rest ih =>
    intro world
    have hanswers := h (batch.map (extraction setting)) world
    simp only [answered, hanswers, ih, List.flatten_cons, List.map_append, List.map_map,
      List.map_prod_left_eq_zip]
    rfl

/-- A track whose extraction is answered alike has that answer in every search. -/
theorem answer_of_mem_answered {track : Track} {answer given : Except Fault String}
    (h : tools.AnswersAlike setting.media (extraction setting track) answer)
    (pools : List (List Track)) : ∀ {world : World σ},
    (track, given) ∈ answered setting tools world pools → given = answer := by
  induction pools with
  | nil => exact fun hmem => absurd hmem List.not_mem_nil
  | cons batch rest ih =>
    intro world hmem
    rcases List.mem_append.1 hmem with hnow | hlater
    · -- the answer stands where the track stands in its batch
      obtain ⟨n, hn⟩ := List.mem_iff_getElem?.1 hnow
      obtain ⟨htrack, hgiven⟩ := List.getElem?_zip_eq_some.1 hn
      have hasked : (batch.map (extraction setting))[n]? = some (extraction setting track) := by
        rw [List.getElem?_map, htrack, Option.map_some]
      exact Option.some.inj (hgiven.symm.trans (h _ world n hasked))
    · exact ih hlater

end TrackSelect.ForeignAudio
