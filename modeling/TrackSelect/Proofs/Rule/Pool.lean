import Mathlib.Data.List.Permutation
import TrackSelect.Proofs.ForeignAudio.Sparse
import TrackSelect.Proofs.Rule.Narrowing
import TrackSelect.Rule.RuleSets

/-!
# The pool of the rule-sets

Rule-sets run one after the other over a pool that shrinks. `turns` tells what each of them did:
the pool it ran on, and what it picked of it. Whatever the rules and the tools are,

* a rule-set comes to a pick, which is part of its pool (`narrow_picks`);
* so a run goes on turn by turn until no rule-set or no track is left (`run_induction`);
* the pool loses what is picked, and nothing else (`append_remaining_perm`);
* the picks so far and the pool make up the candidates all the time (`Shrinking.perm`), and the
  selection consists of disjoint picks, one for each rule-set (`select_picks`).
-/

namespace TrackSelect.RuleSet

/-! ## Tracks and their indices -/

/-- Tracks with distinct indices are known by them. -/
theorem eq_of_index_eq {tracks : List Track} (h : (tracks.map Track.index).Nodup) {a b : Track}
    (ha : a ∈ tracks) (hb : b ∈ tracks) (hab : a.index = b.index) : a = b :=
  List.inj_on_of_nodup_map h ha hb hab

/-- Part of some tracks, in the order of their indices, is there in that order. -/
theorem sublist_of_ascending {tracks picked : List Track}
    (h : tracks.Pairwise fun a b => a.index < b.index) (hsub : picked.Subperm tracks)
    (hsorted : picked.Pairwise fun a b => a.index ≤ b.index) : picked.Sublist tracks := by
  obtain ⟨chosen, hperm, hchosen⟩ := hsub
  have hdistinct : (tracks.map Track.index).Nodup := List.pairwise_map.2 (h.imp Nat.ne_of_lt)
  -- `chosen` and `picked` have the same tracks, and indices leave only one order for them
  have heq : chosen = picked := by
    have hascending : chosen.Pairwise fun a b => a.index ≤ b.index :=
      (h.sublist hchosen).imp Nat.le_of_lt
    refine hperm.eq_of_pairwise ?_ hascending hsorted
    intro a b ha hb hab hba
    have hbmem : b ∈ tracks := hchosen.subset (hperm.mem_iff.2 hb)
    exact eq_of_index_eq hdistinct (hchosen.subset ha) hbmem (Nat.le_antisymm hab hba)
  exact heq ▸ hchosen

/-- Taking a pick from a pool leaves the rest of the pool: together they are the pool again. It
does not matter that tracks are picked as they are and taken away by their indices. -/
theorem append_remaining_perm {pool picked : List Track}
    (hdistinct : (pool.map Track.index).Nodup) (hsub : picked.Subperm pool) :
    (picked ++ remaining pool picked).Perm pool := by
  have hpool : pool.Nodup := List.Nodup.of_map _ hdistinct
  obtain ⟨chosen, hperm, hchosen⟩ := hsub
  have hpicked : picked.Nodup := hperm.nodup_iff.1 (hpool.sublist hchosen)
  have hmem : ∀ track ∈ picked, track ∈ pool := fun track h =>
    hchosen.subset (hperm.mem_iff.2 h)
  have hrest : (remaining pool picked).Nodup := hpool.filter _
  have hdisjoint : picked.Disjoint (remaining pool picked) := by
    intro track hin hout
    have hnone := (List.mem_filter.1 hout).2
    simp only [Bool.not_eq_true', List.any_eq_false, beq_iff_eq] at hnone
    exact hnone track hin rfl
  -- no track is there twice on either side, so membership is enough
  refine (List.perm_ext_iff_of_nodup (hpicked.append hrest hdisjoint) hpool).2 ?_
  intro track
  rw [List.mem_append]
  constructor
  · rintro (hin | hout)
    · exact hmem track hin
    · exact (List.mem_filter.1 hout).1
  · intro htrack
    by_cases hin : track ∈ picked
    · exact Or.inl hin
    · refine Or.inr (List.mem_filter.2 ⟨htrack, ?_⟩)
      simp only [Bool.not_eq_true', List.any_eq_false, beq_iff_eq]
      intro other hother heq
      exact hin (eq_of_index_eq hdistinct (hmem other hother) htrack heq ▸ hother)

/-! ## One rule-set -/

section Turns

variable {σ : Type} (tools : Toolbox σ) (setting : ForeignAudio.Setting)

/-- **A rule-set comes to a pick**, which is part of its pool; of a pool in the order of indices it
is a part in that order, also when a search has sorted it anew. -/
theorem narrow_picks (rules : List Rule) (picks : Picks) (world : World σ) (pool : List Track) :
    ∃ picked after world',
      narrow tools setting picks world rules pool = (.ok (picked, after), world') ∧
      after.selected = picks.selected ∧ picked.Subperm pool ∧
      ((pool.Pairwise fun a b => a.index < b.index) → picked.Sublist pool) := by
  induction picks, world, rules, pool using narrow_induction tools setting with
  | done picks world rules pool hdone =>
    exact ⟨pool, picks, world, narrow_of_isDone hdone, rfl, List.Subperm.refl pool,
      fun _ => List.Sublist.refl pool⟩
  | search picks world rules pool hopen ih =>
    have hpick := ForeignAudio.search_subperm tools setting pool world
    have hsorted := ForeignAudio.search_pairwise tools setting pool world
    obtain ⟨picked, after, world', hrun, hselected, hsub, hascending⟩ := ih
    rw [← narrow_of_search tools setting picks world hopen] at hrun
    refine ⟨picked, after, world', hrun, hselected, hsub.trans hpick, fun hpool => ?_⟩
    -- the search sorts its pick by index, which is the order of the pool
    have hsublist := sublist_of_ascending hpool hpick hsorted
    exact (hascending (hpool.sublist hsublist)).trans hsublist
  | apply picks world rule rules pool kept hrule hopen hkept ih =>
    have hsublist := Rule.apply_sublist hkept
    obtain ⟨picked, after, world', hrun, hselected, hsub, hascending⟩ := ih
    rw [← narrow_of_apply tools setting picks world hrule hopen hkept] at hrun
    refine ⟨picked, after, world', hrun, hselected, hsub.trans hsublist.subperm, ?_⟩
    exact fun hpool => (hascending (hpool.sublist hsublist)).trans hsublist

/-! ## The run over the rule-sets -/

/-- A run has come to its end: no rule-set is left, or no track is. -/
def IsOver (sets : List RuleSet) (pool : List Track) : Prop := sets = [] ∨ pool = []

variable {tools setting} in
/-- Then it goes no further. -/
theorem run_of_isOver {picks : Picks} {world : World σ} {sets : List RuleSet} {pool : List Track}
    (h : IsOver sets pool) : run tools setting picks world sets pool = (.ok picks, world) := by
  rcases h with rfl | rfl
  · rfl
  · exact run_of_nil tools setting picks world sets

/-- **Induction along a run.** It is at its end, or it goes on with what the pick of a rule-set has
left. -/
theorem run_induction {motive : Picks → World σ → List RuleSet → List Track → Prop}
    (done : ∀ picks world sets pool, IsOver sets pool → motive picks world sets pool)
    (turn : ∀ picks world set sets pool picked after now, pool ≠ [] →
      narrow tools setting picks world set.rules pool = (.ok (picked, after), now) →
      motive { after with selected := after.selected ++ picked } now sets (remaining pool picked) →
      motive picks world (set :: sets) pool) (picks : Picks) (world : World σ)
    (sets : List RuleSet) (pool : List Track) : motive picks world sets pool := by
  induction sets generalizing picks world pool with
  | nil => exact done picks world [] pool (.inl rfl)
  | cons set sets ih =>
    by_cases hpool : pool = []
    · exact done picks world _ pool (.inr hpool)
    · obtain ⟨picked, after, now, hnarrow, -⟩ :=
        narrow_picks tools setting set.rules picks world pool
      exact turn picks world set sets pool picked after now hpool hnarrow (ih _ _ _)

/-- What one rule-set did. -/
structure Turn where
  /-- The pool it ran on. -/
  pool : List Track
  picked : List Track

/-- The turns of a run, one for each rule-set. On an empty pool a rule-set has nothing to pick. -/
def turns (picks : Picks) (world : World σ) : List RuleSet → List Track → List Turn
  | [], _ => []
  | set :: sets, pool =>
    if pool = [] then ⟨[], []⟩ :: turns picks world sets []
    else match narrow tools setting picks world set.rules pool with
      | (.ok (picked, picks), world) =>
        ⟨pool, picked⟩ :: turns { picks with selected := picks.selected ++ picked } world sets
          (remaining pool picked)
      | (.error _, _) => []

/-- What all of some turns picked, in order. -/
def pickedIn (turns : List Turn) : List Track := turns.flatMap Turn.picked

/-- On an empty pool nothing is picked any more. -/
theorem pickedIn_turns_nil (sets : List RuleSet) (picks : Picks) (world : World σ) :
    pickedIn (turns tools setting picks world sets []) = [] := by
  induction sets generalizing picks world with
  | nil => rfl
  | cons set sets ih =>
    have hrest := ih picks world
    simpa [turns, pickedIn] using hrest

/-- A first turn on a pool that is not empty. -/
theorem turns_cons {set : RuleSet} {pool picked : List Track} {picks after : Picks}
    {world world' : World σ} (hpool : pool ≠ [])
    (h : narrow tools setting picks world set.rules pool = (.ok (picked, after), world'))
    (sets : List RuleSet) :
    turns tools setting picks world (set :: sets) pool =
      ⟨pool, picked⟩ :: turns tools setting { after with selected := after.selected ++ picked }
        world' sets (remaining pool picked) := by
  simp only [turns, hpool, if_false, h]

/-- **A run comes to the picks of its turns**, added to what was selected before. -/
theorem run_picks (sets : List RuleSet) :
    ∀ (picks : Picks) (world : World σ) (pool : List Track), ∃ after world',
      run tools setting picks world sets pool = (.ok after, world') ∧
      after.selected = picks.selected ++ pickedIn (turns tools setting picks world sets pool) ∧
      (turns tools setting picks world sets pool).length = sets.length := by
  induction sets with
  | nil =>
    intro picks world pool
    exact ⟨picks, world, rfl, by simp [turns, pickedIn], rfl⟩
  | cons set sets ih =>
    intro picks world pool
    by_cases hpool : pool = []
    · subst hpool
      refine ⟨picks, world, run_of_nil tools setting picks world _, ?_, ?_⟩
      · rw [pickedIn_turns_nil, List.append_nil]
      · obtain ⟨-, -, -, -, hlength⟩ := ih picks world []
        simp [turns, hlength]
    · obtain ⟨picked, picks', world', hnarrow, hselected, -, -⟩ :=
        narrow_picks tools setting set.rules picks world pool
      have hturns := turns_cons tools setting hpool hnarrow sets
      have hrun := run_of_narrow tools setting picks world hpool hnarrow sets
      obtain ⟨after, last, hafter, hall, hlength⟩ := ih
        { picks' with selected := picks'.selected ++ picked } world' (remaining pool picked)
      refine ⟨after, last, hrun.trans hafter, ?_, ?_⟩
      · rw [hall, hturns]
        simp [pickedIn, hselected]
      · rw [hturns, List.length_cons, hlength, List.length_cons]

end Turns

/-! ## How the pool shrinks -/

/-- The pool that some turns leave. -/
def poolAfter (candidates : List Track) (turns : List Turn) : List Track :=
  turns.foldl (fun pool turn => remaining pool turn.picked) candidates

/-- Turns over a shrinking pool: each picks part of what the ones before it have left, and of a
pool in the order of indices a part in that order. -/
inductive Shrinking : List Track → List Turn → Prop where
  | done (pool : List Track) : Shrinking pool []
  | turn {pool picked : List Track} {turns : List Turn} (part : picked.Subperm pool)
      (ordered : (pool.Pairwise fun a b => a.index < b.index) → picked.Sublist pool)
      (rest : Shrinking (remaining pool picked) turns) : Shrinking pool (⟨pool, picked⟩ :: turns)

/-- The turns of a run are such turns. -/
theorem turns_shrinking {σ : Type} (tools : Toolbox σ) (setting : ForeignAudio.Setting)
    (sets : List RuleSet) : ∀ (picks : Picks) (world : World σ) (pool : List Track),
      Shrinking pool (turns tools setting picks world sets pool) := by
  induction sets with
  | nil => exact fun _ _ pool => .done pool
  | cons set sets ih =>
    intro picks world pool
    by_cases hpool : pool = []
    · subst hpool
      have hrest : Shrinking (remaining [] []) (turns tools setting picks world sets []) :=
        ih picks world []
      simpa [turns] using hrest.turn (List.Subperm.refl []) fun _ => List.Sublist.refl []
    · obtain ⟨picked, picks', world', hnarrow, -, hpart, hordered⟩ :=
        narrow_picks tools setting set.rules picks world pool
      rw [turns_cons tools setting hpool hnarrow sets]
      exact (ih _ world' (remaining pool picked)).turn hpart hordered

/-- What is left of a pool with distinct indices has distinct indices. -/
theorem nodup_remaining {pool : List Track} (h : (pool.map Track.index).Nodup)
    (picked : List Track) : ((remaining pool picked).map Track.index).Nodup :=
  h.sublist (List.filter_sublist.map Track.index)

/-- A track that is left was not picked. -/
theorem notMem_of_mem_remaining {pool picked : List Track} {track : Track}
    (h : track ∈ remaining pool picked) : track ∉ picked := by
  have hnone := (List.mem_filter.1 h).2
  simp only [Bool.not_eq_true', List.any_eq_false, beq_iff_eq] at hnone
  exact fun hin => hnone track hin rfl

namespace Shrinking

variable {pool : List Track} {turns : List Turn}

/-- **Nothing gets lost and nothing is picked twice**: after any number of turns the picks and
the pool are the candidates. -/
theorem perm (h : Shrinking pool turns) (hdistinct : (pool.map Track.index).Nodup) (n : Nat) :
    (pickedIn (turns.take n) ++ poolAfter pool (turns.take n)).Perm pool := by
  induction h generalizing n with
  | done pool => simp [pickedIn, poolAfter]
  | @turn pool picked turns part ordered rest ih =>
    cases n with
    | zero => simp [pickedIn, poolAfter]
    | succ n =>
      -- the later turns share out what the first one leaves
      have hrest := ih (nodup_remaining hdistinct picked) n
      have hpicked : (picked ++ remaining pool picked).Perm pool :=
        append_remaining_perm hdistinct part
      simpa [pickedIn, poolAfter] using (hrest.append_left picked).trans hpicked

/-- A turn runs on the pool that the turns before it leave, and picks candidates that none of them
has picked. -/
theorem turn_fresh (h : Shrinking pool turns) {n : Nat} {turn : Turn}
    (hturn : turns[n]? = some turn) :
    turn.pool = poolAfter pool (turns.take n) ∧
      ∀ track ∈ turn.picked, track ∈ pool ∧ track ∉ pickedIn (turns.take n) := by
  induction h generalizing n with
  | done pool => simp at hturn
  | @turn pool picked turns part ordered rest ih =>
    cases n with
    | zero =>
      have hfirst : turn = ⟨pool, picked⟩ := by simpa using hturn.symm
      subst hfirst
      refine ⟨by simp [poolAfter], fun track htrack => ⟨part.subset htrack, ?_⟩⟩
      simp [pickedIn]
    | succ n =>
      obtain ⟨hpool, hfresh⟩ := ih (by simpa using hturn)
      refine ⟨by simpa [poolAfter] using hpool, fun track htrack => ?_⟩
      obtain ⟨hleft, hnot⟩ := hfresh track htrack
      refine ⟨(List.mem_filter.1 hleft).1, ?_⟩
      have hnow : track ∉ picked := notMem_of_mem_remaining hleft
      simpa [pickedIn, hnow] using hnot

/-- From candidates in the order of indices, every pick is a part of its pool in that order. -/
theorem sublist (h : Shrinking pool turns) (hpool : pool.Pairwise fun a b => a.index < b.index) :
    ∀ turn ∈ turns, turn.picked.Sublist turn.pool := by
  induction h with
  | done pool => simp
  | @turn pool picked turns part ordered rest ih =>
    intro turn hturn
    rcases List.mem_cons.1 hturn with rfl | hturn
    · exact ordered hpool
    · exact ih (hpool.sublist List.filter_sublist) turn hturn

end Shrinking

/-! ## The selection of the rule-sets -/

/-- From candidates with distinct indices, rule-sets select part of them: what all turns picked. -/
theorem select_subperm {σ : Type} (tools : Toolbox σ) (setting : ForeignAudio.Setting)
    (sets : List RuleSet) {candidates : List Track} (world : World σ)
    (hdistinct : (candidates.map Track.index).Nodup) :
    ∃ picks after, select tools setting sets candidates world = (.ok picks, after) ∧
      picks.selected = pickedIn (turns tools setting {} world sets candidates) ∧
      picks.selected.Subperm candidates := by
  obtain ⟨picks, after, hrun, hselected, hlength⟩ :=
    run_picks tools setting sets {} world candidates
  have hpicked : picks.selected = pickedIn (turns tools setting {} world sets candidates) := by
    simpa using hselected
  have hall := (turns_shrinking tools setting sets {} world candidates).perm hdistinct sets.length
  rw [List.take_of_length_le (Nat.le_of_eq hlength), ← hpicked] at hall
  exact ⟨picks, after, hrun, hpicked, (List.sublist_append_left _ _).subperm.trans hall.subperm⟩

/-- Part of some tracks with distinct indices has distinct indices. -/
theorem nodup_of_subperm {tracks picked : List Track} (h : picked.Subperm tracks)
    (hdistinct : (tracks.map Track.index).Nodup) : (picked.map Track.index).Nodup := by
  obtain ⟨chosen, hperm, hchosen⟩ := h
  exact (hperm.map Track.index).nodup_iff.1 (hdistinct.sublist (hchosen.map Track.index))

/-- **Rule-sets share out the candidates.** From candidates with distinct indices, whatever the
rules and the tools are, the run succeeds, and the selection is made of one pick for each
rule-set. After any number of rule-sets, the picks so far and the pool together are the
candidates; so no index is selected twice. Every pick consists of candidates as they are, none of
which was picked before, and if the candidates are in the order of their indices, it is a part of
its pool in that order. -/
theorem select_picks {σ : Type} (tools : Toolbox σ) (setting : ForeignAudio.Setting)
    (sets : List RuleSet) (candidates : List Track) (world : World σ)
    (hdistinct : (candidates.map Track.index).Nodup) :
    ∃ picks after, select tools setting sets candidates world = (.ok picks, after) ∧
      ∃ turns, turns = RuleSet.turns tools setting {} world sets candidates ∧
        turns.length = sets.length ∧
        picks.selected = pickedIn turns ∧
        (picks.selected.map Track.index).Nodup ∧
        (∀ n, (pickedIn (turns.take n) ++ poolAfter candidates (turns.take n)).Perm candidates) ∧
        (∀ n turn, turns[n]? = some turn →
          turn.pool = poolAfter candidates (turns.take n) ∧
          ∀ track ∈ turn.picked, track ∈ candidates ∧ track ∉ pickedIn (turns.take n)) ∧
        ((candidates.Pairwise fun a b => a.index < b.index) →
          ∀ turn ∈ turns, turn.picked.Sublist turn.pool) := by
  obtain ⟨picks, after, hrun, hpicked, hpart⟩ := select_subperm tools setting sets world hdistinct
  obtain ⟨-, -, -, -, hlength⟩ := run_picks tools setting sets {} world candidates
  have hshrinking := turns_shrinking tools setting sets {} world candidates
  exact ⟨picks, after, hrun, _, rfl, hlength, hpicked, nodup_of_subperm hpart hdistinct,
    hshrinking.perm hdistinct, fun n turn => hshrinking.turn_fresh, hshrinking.sublist⟩

/-- Three subtitles out of order. -/
def threeSubtitles : List Track :=
  [{ index := 3, kind := .subtitle, codec := "subrip", language := some "eng" },
    { index := 2, kind := .subtitle, codec := "subrip", language := some "eng" },
    { index := 4, kind := .subtitle, codec := "ass" }]

/-- The text of the second of them cannot be had, and the others are empty. -/
def emptyTexts : Answers where
  probe := .error .unusablePath
  transcript track := if track = 2 then .error (.extraction 2 "no text") else .ok ""
  ocr track := .error (.extraction track "no picture")

/-- A search that finds nothing leaves everything to the rule-sets behind it. -/
theorem select_picks_threeSubtitles :
    (threeSubtitles.map Track.index).Nodup ∧ ∃ picks after,
      select (.scripted emptyTexts) ⟨"film.mkv", [], 2⟩
        [⟨"foreign", [.foreignAudio]⟩, ⟨"native", [.language ["eng"]]⟩, ⟨"rest", []⟩]
        threeSubtitles ⟨.fresh, []⟩ = (.ok picks, after) ∧
      picks.selected.map Track.index = [3, 2, 4] := by
  have hdistinct : (threeSubtitles.map Track.index).Nodup := by decide
  refine ⟨hdistinct, ?_⟩
  obtain ⟨picks, after, hrun, turns, hturns, -, hselected, -⟩ :=
    select_picks (.scripted emptyTexts) ⟨"film.mkv", [], 2⟩
      [⟨"foreign", [.foreignAudio]⟩, ⟨"native", [.language ["eng"]]⟩, ⟨"rest", []⟩]
      threeSubtitles ⟨.fresh, []⟩ hdistinct
  refine ⟨picks, after, hrun, ?_⟩
  rw [hselected, hturns]
  cbv

end TrackSelect.RuleSet
