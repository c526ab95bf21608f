import TrackSelect.Proofs.ForeignAudio.Quarter
import TrackSelect.Proofs.Rule.Pool

/-!
# Turns that search

Beside what it picks, a rule-set may search pools for foreign audio. A `Round` is a turn together
with the pools that were searched in it, and the pools that a run says it has searched are those of
its rounds (`run_searched`).

What a rule-set picks after a search is part of what the search picked. So whatever is picked in a
round is sparse in every pool that was searched in it (`sparse_of_mem_rounds`).
-/

namespace TrackSelect.RuleSet

variable {σ : Type} (tools : Toolbox σ) (setting : ForeignAudio.Setting)

/-! ## One rule-set -/

/-- A pool in which all tracks of a pick are sparse, by what it counted when it was searched. -/
def SparseFor (picked pool : List Track) : Prop :=
  ∃ now : World σ, ∀ track ∈ picked,
    ForeignAudio.IsSparseIn (ForeignAudio.counts tools setting pool now) track

/-- **What a rule-set picks is sparse** in every pool that it searches. The pools come behind those
that were searched before. -/
theorem narrow_sparse (rules : List Rule) {picks after : Picks} {world last : World σ}
    {pool picked : List Track}
    (h : narrow tools setting picks world rules pool = (.ok (picked, after), last)) :
    ∃ searched, after.searched = picks.searched ++ searched ∧
      ∀ pool ∈ searched, SparseFor tools setting picked pool := by
  induction picks, world, rules, pool using narrow_induction tools setting with
  | done picks world rules pool hdone =>
    rw [narrow_of_isDone hdone] at h
    cases h
    exact ⟨[], (List.append_nil _).symm, by simp⟩
  | search picks world rules pool hopen ih =>
    rw [narrow_of_search tools setting picks world hopen] at h
    -- the rules behind the search pick from what it has picked
    obtain ⟨_, _, _, hrest, -, hpart, -⟩ := narrow_picks tools setting rules
      (picks.afterSearch pool (ForeignAudio.search tools setting pool world).1)
      (ForeignAudio.search tools setting pool world).2
      (ForeignAudio.search tools setting pool world).1.selected
    cases h.symm.trans hrest
    obtain ⟨searched, hsearched, hsparse⟩ := ih h
    refine ⟨pool :: searched, ?_, List.forall_mem_cons.2 ⟨⟨world, fun track htrack => ?_⟩,
      hsparse⟩⟩
    · rw [hsearched, Picks.afterSearch, List.append_assoc, List.singleton_append]
    · exact ForeignAudio.isSparseIn_of_mem_search tools setting (hpart.subset htrack)
  | apply picks world rule rules pool kept hrule hopen hkept ih =>
    rw [narrow_of_apply tools setting picks world hrule hopen hkept] at h
    exact ih h

/-! ## All rule-sets -/

/-- A turn, with the pools that were searched in it. -/
structure Round extends Turn where
  searched : List (List Track)

/-- The rounds of a run, one for each rule-set. -/
def rounds (picks : Picks) (world : World σ) : List RuleSet → List Track → List Round
  | [], _ => []
  | set :: sets, pool =>
    if pool = [] then ⟨⟨[], []⟩, []⟩ :: rounds picks world sets []
    else match narrow tools setting picks world set.rules pool with
      | (.ok (picked, after), world) =>
        ⟨⟨pool, picked⟩, after.searched.drop picks.searched.length⟩ ::
          rounds { after with selected := after.selected ++ picked } world sets
            (remaining pool picked)
      | (.error _, _) => []

/-- A first round on a pool that is not empty. -/
theorem rounds_cons {set : RuleSet} {pool picked : List Track} {picks after : Picks}
    {world now : World σ} (hpool : pool ≠ [])
    (h : narrow tools setting picks world set.rules pool = (.ok (picked, after), now))
    (sets : List RuleSet) :
    rounds tools setting picks world (set :: sets) pool =
      ⟨⟨pool, picked⟩, after.searched.drop picks.searched.length⟩ ::
        rounds tools setting { after with selected := after.selected ++ picked } now sets
          (remaining pool picked) := by
  simp only [rounds, hpool, if_false, h]

/-- But for the searches, rounds are the turns of the run. -/
theorem rounds_turns (sets : List RuleSet) : ∀ (picks : Picks) (world : World σ) (pool : List Track),
    (rounds tools setting picks world sets pool).map Round.toTurn =
      turns tools setting picks world sets pool := by
  induction sets with
  | nil => exact fun _ _ _ => rfl
  | cons set sets ih =>
    intro picks world pool
    by_cases hpool : pool = []
    · simp only [rounds, turns, hpool, if_true, List.map_cons, ih]
    · obtain ⟨picked, after, now, hnarrow, -⟩ :=
        narrow_picks tools setting set.rules picks world pool
      rw [rounds_cons tools setting hpool hnarrow, turns_cons tools setting hpool hnarrow,
        List.map_cons, ih]

/-- What is picked in a round is selected. -/
theorem mem_selected_of_mem_rounds {sets : List RuleSet} {candidates : List Track} {picks : Picks}
    {world last : World σ} (h : select tools setting sets candidates world = (.ok picks, last))
    {round : Round} (hround : round ∈ rounds tools setting {} world sets candidates)
    {track : Track} (hpicked : track ∈ round.picked) : track ∈ picks.selected := by
  obtain ⟨_, _, hrun, hselected, -⟩ := run_picks tools setting sets {} world candidates
  cases h.symm.trans hrun
  rw [hselected, ← rounds_turns]
  exact List.mem_append_right _
    (List.mem_flatMap.2 ⟨_, List.mem_map_of_mem hround, hpicked⟩)

/-- **The pools that a run has searched are those of its rounds**, in their order. -/
theorem run_searched (sets : List RuleSet) :
    ∀ {picks after : Picks} {world last : World σ} {pool : List Track},
      run tools setting picks world sets pool = (.ok after, last) →
      after.searched =
        picks.searched ++ (rounds tools setting picks world sets pool).flatMap Round.searched := by
  induction sets with
  | nil =>
    intro picks after world last pool h
    cases h
    simp [rounds]
  | cons set sets ih =>
    intro picks after world last pool h
    by_cases hpool : pool = []
    · subst hpool
      rw [run_of_nil] at h
      have hrest := ih ((run_of_nil tools setting picks world sets).trans h)
      simpa [rounds] using hrest
    · obtain ⟨picked, narrowed, now, hnarrow, -⟩ :=
        narrow_picks tools setting set.rules picks world pool
      rw [run_of_narrow tools setting picks world hpool hnarrow] at h
      obtain ⟨searched, hsearched, -⟩ := narrow_sparse tools setting set.rules hnarrow
      rw [ih h, rounds_cons tools setting hpool hnarrow, List.flatMap_cons, hsearched,
        List.drop_left, List.append_assoc]

/-- **What is picked in a round is sparse** in every pool that was searched in it. -/
theorem sparse_of_mem_rounds (sets : List RuleSet) :
    ∀ {picks : Picks} {world : World σ} {pool : List Track},
      ∀ round ∈ rounds tools setting picks world sets pool,
        ∀ pool ∈ round.searched, SparseFor tools setting round.picked pool := by
  induction sets with
  | nil => simp [rounds]
  | cons set sets ih =>
    intro picks world pool
    by_cases hpool : pool = []
    · simp only [rounds, hpool, if_true]
      exact List.forall_mem_cons.2 ⟨by simp, ih⟩
    · obtain ⟨picked, after, now, hnarrow, -⟩ :=
        narrow_picks tools setting set.rules picks world pool
      obtain ⟨searched, hsearched, hsparse⟩ := narrow_sparse tools setting set.rules hnarrow
      rw [rounds_cons tools setting hpool hnarrow, hsearched, List.drop_left]
      exact List.forall_mem_cons.2 ⟨hsparse, ih⟩

end TrackSelect.RuleSet
