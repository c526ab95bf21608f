import Mathlib.Data.List.Basic
import TrackSelect.Proofs.ForeignAudio.Counting
import TrackSelect.Proofs.Rule.Pool
import TrackSelect.Proofs.Toolbox.Recording

/-!
# Rule-sets under recording tools

Recording tools change nothing about what rule-sets come to, and the failures that a run collects
are those in the list of answers: an extraction that failed, or an OCR dump that has no cues
since it is malformed (`RuleSet.select_recorded`). The lemma about each part of a run, a search or
a rule-set, says that some answers are added to the list, and that the failures among these are
the ones that the part adds to its own.
-/

namespace TrackSelect

/-- The failure that an answer is in a search: the text cannot be had, or it is an OCR dump that
is malformed. -/
def Answered.searchFailure? : Answered → Option Fault
  | ⟨_, .error fault⟩ => some fault
  | ⟨.transcript _ _, .ok _⟩ => none
  | ⟨.ocr track, .ok dump⟩ =>
    match OcrDump.cues dump with
    | .error fault => some (.extraction track fault.message)
    | .ok _ => none

variable {σ : Type} (tools : Toolbox σ)

namespace ForeignAudio

variable (setting : Setting)

/-- What is answered for a track, without the track. -/
def toAnswered (entry : Track × Except Fault String) : Answered :=
  ⟨extraction setting entry.1, entry.2⟩

/-- A track has no number of cues exactly where its answer is a failure. -/
theorem searchFailure?_toAnswered (entry : Track × Except Fault String) :
    (toAnswered setting entry).searchFailure? = uncounted? setting entry := by
  obtain ⟨track, answer⟩ := entry
  unfold toAnswered uncounted?
  cases answer with
  | error fault => rfl
  | ok text =>
    cases hextraction : extraction setting track with
    | transcript index format => rfl
    | ocr index =>
      cases hcues : OcrDump.cues text with
      | error fault => simp [Except.bind, cueCount, Answered.searchFailure?, hcues]
      | ok cues => simp [Except.bind, cueCount, Answered.searchFailure?, hcues]

/-- The answers that recording tools note for a batch. -/
theorem zipWith_answered (batch : List Track) (answers : List (Except Fault String)) :
    (batch.map (extraction setting)).zipWith Answered.mk answers =
      (batch.zip answers).map (toAnswered setting) := by
  rw [List.zip_eq_zipWith, List.map_zipWith, List.zipWith_map_left]
  rfl

/-- All batches under recording tools. -/
theorem countBatches_recorded (pools : List (List Track)) :
    ∀ (tally : Tally) (world : World σ) (log : List Answered),
      countBatches tools.recording setting tally (world.noting log) pools =
        ((countBatches tools setting tally world pools).1,
          (countBatches tools setting tally world pools).2.noting
            (log ++ (answered setting tools world pools).map (toAnswered setting))) := by
  induction pools with
  | nil => intro tally world log; simp [countBatches, answered]
  | cons batch rest ih =>
    intro tally world log
    have hbatch : countBatch tools.recording setting tally (world.noting log) batch =
        ((countBatch tools setting tally world batch).1,
          (countBatch tools setting tally world batch).2.noting (log ++
            (batch.map (extraction setting)).zipWith Answered.mk (tools.extractAll setting.media
              (batch.map (extraction setting)) world).1)) := rfl
    rw [countBatches, hbatch]
    simp only [ih, zipWith_answered, answered, List.map_append, List.append_assoc]
    rfl

/-- A search under recording tools. -/
theorem search_recorded (pool : List Track) (world : World σ) (log : List Answered) : ∃ new,
    search tools.recording setting pool (world.noting log) =
      ((search tools setting pool world).1,
        (search tools setting pool world).2.noting (log ++ new)) ∧
    (search tools setting pool world).1.failures = new.filterMap Answered.searchFailure? := by
  refine ⟨(answered setting tools world (batches setting.batchSize pool)).map
    (toAnswered setting), ?_, ?_⟩
  · rw [search, countBatches_recorded]
    rfl
  · rw [search_eq, List.filterMap_map]
    exact List.filterMap_congr fun entry _ => (searchFailure?_toAnswered setting entry).symm

end ForeignAudio

namespace RuleSet

variable (setting : ForeignAudio.Setting)

/-- A rule-set under recording tools. -/
theorem narrow_recorded (rules : List Rule) (picks : Picks) (world : World σ) (log : List Answered)
    (pool : List Track) :
    ∃ picked after world' new,
      narrow tools setting picks world rules pool = (.ok (picked, after), world') ∧
      narrow tools.recording setting picks (world.noting log) rules pool =
        (.ok (picked, after), world'.noting (log ++ new)) ∧
      after.failures = picks.failures ++ new.filterMap Answered.searchFailure? := by
  induction picks, world, rules, pool using narrow_induction tools setting generalizing log with
  | done picks world rules pool hdone =>
    refine ⟨pool, picks, world, [], narrow_of_isDone hdone, ?_, by simp⟩
    rw [narrow_of_isDone hdone, List.append_nil]
  | search picks world rules pool hopen ih =>
    obtain ⟨now, hnow, hnowFailures⟩ :=
      ForeignAudio.search_recorded tools setting pool world log
    obtain ⟨picked, after, world', later, hrun, hrecorded, hfailures⟩ := ih (log ++ now)
    -- the answers of the search come before those of the rules behind it
    refine ⟨picked, after, world', now ++ later, ?_, ?_, ?_⟩
    · rw [narrow_of_search tools setting picks world hopen, hrun]
    · rw [narrow_of_search tools.recording setting picks _ hopen, hnow, hrecorded,
        List.append_assoc]
    · rw [hfailures, Picks.afterSearch_failures, hnowFailures, List.filterMap_append,
        List.append_assoc]
  | apply picks world rule rules pool kept hrule hopen hkept ih =>
    obtain ⟨picked, after, world', new, hrun, hrecorded, hfailures⟩ := ih log
    refine ⟨picked, after, world', new, ?_, ?_, hfailures⟩
    · rw [narrow_of_apply tools setting picks world hrule hopen hkept, hrun]
    · rw [narrow_of_apply tools.recording setting picks _ hrule hopen hkept, hrecorded]

/-- **A run under recording tools** comes to the same, and the failures it collects are the
failures among the answers that it adds to the list. -/
theorem run_recorded (sets : List RuleSet) (picks : Picks) (world : World σ) (log : List Answered)
    (pool : List Track) :
    ∃ after world' new,
      run tools setting picks world sets pool = (.ok after, world') ∧
      run tools.recording setting picks (world.noting log) sets pool =
        (.ok after, world'.noting (log ++ new)) ∧
      after.failures = picks.failures ++ new.filterMap Answered.searchFailure? := by
  induction picks, world, sets, pool using run_induction tools setting generalizing log with
  | done picks world sets pool hover =>
    refine ⟨picks, world, [], run_of_isOver hover, ?_, by simp⟩
    rw [run_of_isOver hover, List.append_nil]
  | turn picks world set sets pool picked after now hpool hnarrow ih =>
    obtain ⟨_, _, _, new, hsame, hnew, hnewFailures⟩ :=
      narrow_recorded tools setting set.rules picks world log pool
    cases hnarrow.symm.trans hsame
    obtain ⟨last, final, later, hrun, hlater, hlaterFailures⟩ := ih (log ++ new)
    refine ⟨last, final, new ++ later, ?_, ?_, ?_⟩
    · rw [run_of_narrow tools setting picks world hpool hnarrow, hrun]
    · rw [run_of_narrow tools.recording setting picks _ hpool hnew, hlater, List.append_assoc]
    · rw [hlaterFailures, hnewFailures, List.filterMap_append, List.append_assoc]

/-- The selection under recording tools, with an empty list to begin with. -/
theorem select_recorded (sets : List RuleSet) (candidates : List Track) (world : World σ) :
    ∃ picks after answers,
      select tools setting sets candidates world = (.ok picks, after) ∧
      select tools.recording setting sets candidates (world.noting []) =
        (.ok picks, after.noting answers) ∧
      picks.failures = answers.filterMap Answered.searchFailure? :=
  run_recorded tools setting sets {} world [] candidates

end RuleSet

end TrackSelect
