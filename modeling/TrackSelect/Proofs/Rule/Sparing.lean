import TrackSelect.Proofs.ForeignAudio.Picking
import TrackSelect.Proofs.Rule.Hushing
import TrackSelect.Proofs.Rule.Leftovers
import TrackSelect.Proofs.Rule.Obeying

/-!
# What a search leaves in the pool

A search holds tracks back: those that it cannot count, the silent ones and the densest ones. None
of them is sparse (`ForeignAudio.notMem_search`), and every pool that is not empty has one
(`ForeignAudio.exists_isHeldBack`). What a rule-set picks behind a search was picked by the search
before, so all tracks that were held back are left to the rule-sets behind
(`RuleSet.narrow_spares`). A search never uses up a pool (`RuleSet.select_spares`).
-/

namespace TrackSelect

/-! ## Tracks that a search holds back -/

namespace ForeignAudio

variable {σ : Type} (tools : Toolbox σ) (setting : Setting)

/-- What a search of a pool was told of each of its tracks. -/
abbrev told (pool : List Track) (world : World σ) : List (Track × Except Fault String) :=
  answered setting tools world (batches setting.batchSize pool)

/-- A track that a search does not pick, and why it does not. -/
inductive IsHeldBack (pool : List Track) (world : World σ) (track : Track) : Prop where
  /-- Its text could not be had, or not be read. -/
  | failed {answer : Except Fault String} {fault : Fault}
      (htold : (track, answer) ∈ told tools setting pool world)
      (hfault : uncounted? setting (track, answer) = some fault)
  /-- Nothing was said of it at all. -/
  | untold (h : track ∉ (told tools setting pool world).map Prod.fst)
  | silent (h : (0, track) ∈ counts tools setting pool world)
  | densest {count : Nat} (h : (count, track) ∈ counts tools setting pool world)
      (hlargest : IsLargest (counts tools setting pool world) count)

variable {tools setting} {pool : List Track} {world : World σ} {track : Track}

/-- A track with a number of cues was told of, and its answer has that number. -/
theorem exists_told_of_mem_counts {count : Nat}
    (h : (count, track) ∈ counts tools setting pool world) :
    ∃ answer, (track, answer) ∈ told tools setting pool world ∧
      counted? setting (track, answer) = some (count, track) := by
  obtain ⟨⟨other, answer⟩, hmem, hcounted⟩ := List.mem_filterMap.1 h
  have hsame : track = other := counted?_track setting hcounted
  subst hsame
  exact ⟨answer, hmem, hcounted⟩

/-- An answer has a number of cues or a failure, never both. -/
theorem uncounted?_of_counted? {entry : Track × Except Fault String} {count : Nat × Track}
    (h : counted? setting entry = some count) : uncounted? setting entry = none := by
  unfold counted? at h
  unfold uncounted?
  split at h
  · rfl
  · cases h

/-- And it has one of them. -/
theorem exists_of_counted?_eq_none {entry : Track × Except Fault String}
    (h : counted? setting entry = none) : ∃ fault, uncounted? setting entry = some fault := by
  unfold counted? at h
  unfold uncounted?
  split at h
  · cases h
  · exact ⟨_, rfl⟩

variable (hdistinct : (pool.map Track.index).Nodup)

include hdistinct

/-- With distinct indices a search is told of each track once. -/
theorem answer_eq_of_mem_told {answer other : Except Fault String}
    (h : (track, answer) ∈ told tools setting pool world)
    (hother : (track, other) ∈ told tools setting pool world) : answer = other := by
  have hpart := answered_sublist setting tools (batches setting.batchSize pool) world
  rw [flatten_batches] at hpart
  have htracks : ((told tools setting pool world).map Prod.fst).Nodup :=
    (List.Nodup.of_map _ hdistinct).sublist hpart
  exact congrArg Prod.snd (List.inj_on_of_nodup_map htracks h hother rfl)

/-- With distinct indices a search counts each track once. -/
theorem nodup_counts : (((counts tools setting pool world).map Prod.snd).map Track.index).Nodup := by
  have hpart := answered_sublist setting tools (batches setting.batchSize pool) world
  rw [flatten_batches] at hpart
  have hcounted := (counted_sublist setting (told tools setting pool world)).trans hpart
  exact hdistinct.sublist (hcounted.map Track.index)

/-- **What is held back is not picked.** A picked track has a number of cues, which is neither zero
nor the largest. -/
theorem notMem_search (h : IsHeldBack tools setting pool world track) :
    track ∉ (search tools setting pool world).1.selected := by
  intro hpicked
  obtain ⟨count, largest, hmem, hlargest, hpos, hquarter⟩ :=
    isSparseIn_of_mem_search tools setting hpicked
  obtain ⟨answer, htold, hcounted⟩ := exists_told_of_mem_counts hmem
  cases h with
  | @failed other fault hother hfault =>
    have hsame : answer = other := answer_eq_of_mem_told hdistinct htold hother
    subst hsame
    rw [uncounted?_of_counted? hcounted] at hfault
    cases hfault
  | untold hnone => exact hnone (List.mem_map.2 ⟨_, htold, rfl⟩)
  | silent hsilent =>
    have hzero : count = 0 := count_eq_of_mem (nodup_counts hdistinct) hmem hsilent
    omega
  | @densest most hmost hdensest =>
    have hcount : count = most := count_eq_of_mem (nodup_counts hdistinct) hmem hmost
    -- there is only one largest number, and it is not below a quarter of itself
    have hsame : largest = most := hlargest.eq_largestCount.trans hdensest.eq_largestCount.symm
    omega

omit hdistinct

/-- **Every pool has a track that is held back**: the densest one, or any if none was counted. -/
theorem exists_isHeldBack (hpool : pool ≠ []) :
    ∃ track ∈ pool, IsHeldBack tools setting pool world track := by
  have hpart := answered_sublist setting tools (batches setting.batchSize pool) world
  rw [flatten_batches] at hpart
  rcases largestCount_cases (counts tools setting pool world) with ⟨hnone, -⟩ | hlargest
  · obtain ⟨track, rest, rfl⟩ := List.exists_cons_of_ne_nil hpool
    refine ⟨track, List.mem_cons_self, ?_⟩
    by_cases htold : track ∈ (told tools setting (track :: rest) world).map Prod.fst
    · obtain ⟨⟨same, answer⟩, hmem, hsame⟩ := List.mem_map.1 htold
      have hsame : same = track := hsame
      subst hsame
      -- nothing was counted, so this answer is a failure
      have hcounted := List.filterMap_eq_nil_iff.1 hnone _ hmem
      obtain ⟨fault, hfault⟩ := exists_of_counted?_eq_none hcounted
      exact .failed hmem hfault
    · exact .untold htold
  · obtain ⟨track, hmem⟩ := hlargest.1
    obtain ⟨answer, htold, -⟩ := exists_told_of_mem_counts hmem
    exact ⟨track, hpart.subset (List.mem_map.2 ⟨_, htold, rfl⟩), .densest hmem hlargest⟩

end ForeignAudio

/-! ## Rule-sets that search -/

namespace RuleSet

/-- A list is what stands in front of a place, at it and behind it. -/
theorem eq_append_of_getElem? {α : Type} {xs : List α} {place : Nat} {x : α}
    (h : xs[place]? = some x) : xs = xs.take place ++ x :: xs.drop (place + 1) := by
  obtain ⟨hplace, hx⟩ := List.getElem?_eq_some_iff.1 h
  rw [← hx, ← List.drop_eq_getElem_cons hplace, List.take_append_drop]

variable {σ : Type} (tools : Toolbox σ) (setting : ForeignAudio.Setting)

/-- The rule at a place is a search, and it comes to its turn with two or more tracks left: with
those of `reached`, in the world `now`. -/
structure ComesToSearch (picks : Picks) (world : World σ) (rules : List Rule) (pool : List Track)
    (place : Nat) (reached : List Track) (now : World σ) : Prop where
  rule_eq : rules[place]? = some .foreignAudio
  exists_narrow : ∃ sofar,
    narrow tools setting picks world (rules.take place) pool = (.ok (reached, sofar), now)
  two_le : 2 ≤ reached.length

variable {tools setting} {picks : Picks} {world now : World σ} {rules : List Rule}
  {pool reached : List Track} {place : Nat}

/-- The tracks that a search comes to are part of the pool. -/
theorem ComesToSearch.subperm
    (h : ComesToSearch tools setting picks world rules pool place reached now) :
    reached.Subperm pool := by
  obtain ⟨sofar, hreached⟩ := h.exists_narrow
  obtain ⟨_, _, _, hsame, -, hpart, -⟩ :=
    narrow_picks tools setting (rules.take place) picks world pool
  cases hreached.symm.trans hsame
  exact hpart

/-- A rule-set that comes to a search picks from what the search has picked. -/
theorem ComesToSearch.picked_subperm
    (h : ComesToSearch tools setting picks world rules pool place reached now)
    {picked : List Track} {after : Picks} {last : World σ}
    (hrun : narrow tools setting picks world rules pool = (.ok (picked, after), last)) :
    picked.Subperm (ForeignAudio.search tools setting reached now).1.selected := by
  obtain ⟨sofar, hreached⟩ := h.exists_narrow
  -- cut the rules in two in front of the search
  have hrules := eq_append_of_getElem? h.rule_eq
  have hopen : ¬isSettled reached := not_isSettled_of_two_le h.two_le
  have hrest := narrow_append tools setting (rules.take place)
    (.foreignAudio :: rules.drop (place + 1)) hreached
  rw [← hrules, hrun, narrow_of_search tools setting sofar now hopen] at hrest
  obtain ⟨_, _, _, hbehind, -, hpart, -⟩ := narrow_picks tools setting (rules.drop (place + 1))
    (sofar.afterSearch reached (ForeignAudio.search tools setting reached now).1)
    (ForeignAudio.search tools setting reached now).2
    (ForeignAudio.search tools setting reached now).1.selected
  cases hrest.trans hbehind
  exact hpart

/-- A track of the pool that is not picked is left. -/
theorem mem_remaining_of_notMem (hdistinct : (pool.map Track.index).Nodup) {picked : List Track}
    (hpart : picked.Subperm pool) {track : Track} (htrack : track ∈ pool) (hnot : track ∉ picked) :
    track ∈ remaining pool picked := by
  have hmem := (append_remaining_perm hdistinct hpart).mem_iff.2 htrack
  exact (List.mem_append.1 hmem).resolve_left hnot

/-- **A rule-set spares what its searches hold back**: it picks a proper part of the tracks that a
search came to, and leaves all tracks in the pool that the search held back. -/
theorem narrow_spares (hdistinct : (pool.map Track.index).Nodup)
    (h : ComesToSearch tools setting picks world rules pool place reached now)
    {picked : List Track} {after : Picks} {last : World σ}
    (hrun : narrow tools setting picks world rules pool = (.ok (picked, after), last)) :
    picked.Subperm reached ∧ (∃ track ∈ reached, track ∉ picked) ∧
      (∀ track ∈ reached, ForeignAudio.IsHeldBack tools setting reached now track →
        track ∈ remaining pool picked) ∧
      remaining pool picked ≠ [] := by
  have hsearched := h.picked_subperm hrun
  have hpart : picked.Subperm reached :=
    hsearched.trans (ForeignAudio.search_subperm tools setting reached now)
  have hreached : (reached.map Track.index).Nodup := nodup_of_subperm h.subperm hdistinct
  have hnot : ∀ track, ForeignAudio.IsHeldBack tools setting reached now track →
      track ∉ picked := by
    intro track hheld hpicked
    exact ForeignAudio.notMem_search hreached hheld (hsearched.subset hpicked)
  have hleft : ∀ track ∈ reached, ForeignAudio.IsHeldBack tools setting reached now track →
      track ∈ remaining pool picked := by
    intro track htrack hheld
    exact mem_remaining_of_notMem hdistinct (hpart.trans h.subperm) (h.subperm.subset htrack)
      (hnot track hheld)
  have hne : reached ≠ [] := List.ne_nil_of_length_pos (Nat.lt_of_lt_of_le (by decide) h.two_le)
  have hsome : ∃ track ∈ reached, ForeignAudio.IsHeldBack tools setting reached now track :=
    ForeignAudio.exists_isHeldBack hne
  obtain ⟨track, htrack, hheld⟩ := hsome
  exact ⟨hpart, ⟨track, htrack, hnot track hheld⟩, hleft,
    List.ne_nil_of_mem (hleft track htrack hheld)⟩

variable (tools setting world) in
/-- **A search never uses up the pool.** From candidates with distinct indices, whatever the rules
and the tools are: when a rule-set has its turn and comes to a search with two or more tracks, it
picks a proper part of these. It leaves every one of them that could not be counted, that is silent,
or that none has more cues than. So the rule-sets behind it go on over a pool that is not empty. -/
theorem select_spares {sets : List RuleSet} {turn : Nat} {set : RuleSet}
    (hset : sets[turn]? = some set) {candidates : List Track}
    (hdistinct : (candidates.map Track.index).Nodup) {chosen : Picks} {begun : World σ}
    (hchosen : select tools setting (sets.take turn) candidates world = (.ok chosen, begun))
    (hsearch : ComesToSearch tools setting chosen begun set.rules
      (remaining candidates chosen.selected) place reached now) :
    ∃ picked after last left,
      narrow tools setting chosen begun set.rules (remaining candidates chosen.selected) =
        (.ok (picked, after), last) ∧
      left = remaining (remaining candidates chosen.selected) picked ∧
      picked.Subperm reached ∧ (∃ track ∈ reached, track ∉ picked) ∧
      (∀ track ∈ reached, ForeignAudio.IsHeldBack tools setting reached now track →
        track ∈ left) ∧
      left ≠ [] ∧
      select tools setting sets candidates world =
        run tools setting { after with selected := after.selected ++ picked } last
          (sets.drop (turn + 1)) left := by
  obtain ⟨picked, after, last, hrun, -⟩ := narrow_picks tools setting set.rules chosen begun
    (remaining candidates chosen.selected)
  obtain ⟨hpart, hproper, hleft, hne⟩ :=
    narrow_spares (nodup_remaining hdistinct chosen.selected) hsearch hrun
  refine ⟨picked, after, last, _, hrun, rfl, hpart, hproper, hleft, hne, ?_⟩
  -- cut the run in two in front of this turn
  have hsets := eq_append_of_getElem? hset
  obtain ⟨before, hbefore, hrest⟩ :=
    run_append tools setting (sets.take turn) (set :: sets.drop (turn + 1)) hchosen
  have hselected : chosen.selected = before := by rw [hbefore]; rfl
  have hpool : remaining candidates chosen.selected ≠ [] := by
    intro hnil
    rw [hnil] at hne
    exact hne rfl
  rw [← hsets, ← hselected, run_of_narrow tools setting chosen begun hpool hrun] at hrest
  exact hrest

/-- Behind a rule-set for a language that no track is in, one searches the texts and bitmaps, and a
third one takes what is left. -/
def foreignBetween : List RuleSet :=
  [⟨"native", [.language ["eng"]]⟩,
    ⟨"foreign", [.codec ["subrip", "xsub"], .foreignAudio, .codec ["subrip"]]⟩, ⟨"rest", []⟩]

/-- The first text has the most cues, and the second one cannot be had. -/
theorem isHeldBack_gappyTexts (world : World (List Inquiry)) :
    ∀ track ∈ mixedSubtitles.take 2, ForeignAudio.IsHeldBack (.scripted gappyTexts)
      ⟨"film.mkv", ["xsub"], 2⟩ mixedSubtitles world track := by
  have htold : ForeignAudio.told (.scripted gappyTexts) ⟨"film.mkv", ["xsub"], 2⟩ mixedSubtitles
      world = mixedSubtitles.map fun track => (track, gappyTexts.extract
        (ForeignAudio.extraction ⟨"film.mkv", ["xsub"], 2⟩ track)) := by
    rw [ForeignAudio.told, ForeignAudio.answered_of_answersBy _ _
      (Toolbox.scripted_answersBy gappyTexts "film.mkv"), ForeignAudio.flatten_batches]
  have hcounts := (counts_gappyTexts world).1
  intro track htrack
  rcases List.mem_cons.1 htrack with rfl | htrack
  · have hmem : (5, mixedSubtitles[0]) ∈ ForeignAudio.counts (.scripted gappyTexts)
        ⟨"film.mkv", ["xsub"], 2⟩ mixedSubtitles world := by
      rw [hcounts]
      exact List.mem_cons_self
    refine .densest hmem ⟨⟨_, hmem⟩, ?_⟩
    rw [hcounts]
    decide
  · obtain rfl := List.mem_singleton.1 htrack
    have hmem : (mixedSubtitles[1], Except.error (.extraction 3 "no text")) ∈
        ForeignAudio.told (.scripted gappyTexts) ⟨"film.mkv", ["xsub"], 2⟩ mixedSubtitles
          world := by
      rw [htold]
      exact List.mem_of_getElem? (i := 1) (by cbv)
    exact .failed hmem rfl

/-- These two are left to the third rule-set. -/
theorem select_spares_gappyTexts :
    (mixedSubtitles.map Track.index).Nodup ∧
    select (.scripted gappyTexts) ⟨"film.mkv", ["xsub"], 2⟩ (foreignBetween.take 1) mixedSubtitles
      ⟨.fresh, []⟩ = (.ok {}, ⟨.fresh, []⟩) ∧
    ComesToSearch (.scripted gappyTexts) ⟨"film.mkv", ["xsub"], 2⟩ {} ⟨.fresh, []⟩
      foreignBetween[1].rules mixedSubtitles 1 mixedSubtitles ⟨.fresh, []⟩ ∧
    ∃ picked after last left,
      narrow (.scripted gappyTexts) ⟨"film.mkv", ["xsub"], 2⟩ {} ⟨.fresh, []⟩
        foreignBetween[1].rules mixedSubtitles = (.ok (picked, after), last) ∧
      (∃ track ∈ mixedSubtitles, track ∉ picked) ∧
      (∀ track ∈ mixedSubtitles.take 2, track ∈ left) ∧
      select (.scripted gappyTexts) ⟨"film.mkv", ["xsub"], 2⟩ foreignBetween mixedSubtitles
        ⟨.fresh, []⟩ = run (.scripted gappyTexts) ⟨"film.mkv", ["xsub"], 2⟩
          { after with selected := after.selected ++ picked } last [⟨"rest", []⟩] left := by
  have hdistinct : (mixedSubtitles.map Track.index).Nodup := by decide
  have hchosen : select (.scripted gappyTexts) ⟨"film.mkv", ["xsub"], 2⟩ (foreignBetween.take 1)
      mixedSubtitles ⟨.fresh, []⟩ = (.ok {}, ⟨.fresh, []⟩) := by cbv
  have hsearch : ComesToSearch (.scripted gappyTexts) ⟨"film.mkv", ["xsub"], 2⟩ {} ⟨.fresh, []⟩
      foreignBetween[1].rules mixedSubtitles 1 mixedSubtitles ⟨.fresh, []⟩ :=
    ⟨rfl, ⟨{}, by cbv⟩, by decide⟩
  refine ⟨hdistinct, hchosen, hsearch, ?_⟩
  have hset : foreignBetween[1]? = some foreignBetween[1] := rfl
  have hpool : remaining mixedSubtitles ({} : Picks).selected = mixedSubtitles :=
    remaining_nil mixedSubtitles
  obtain ⟨picked, after, last, left, hrun, -, -, hproper, hleft, -, hrest⟩ :=
    select_spares (.scripted gappyTexts) ⟨"film.mkv", ["xsub"], 2⟩ ⟨.fresh, []⟩ hset hdistinct
      hchosen (hpool.symm ▸ hsearch)
  rw [hpool] at hrun
  refine ⟨picked, after, last, left, hrun, hproper, fun track htrack => ?_, hrest⟩
  exact hleft track (List.mem_of_mem_take htrack) (isHeldBack_gappyTexts _ track htrack)

end RuleSet

end TrackSelect
