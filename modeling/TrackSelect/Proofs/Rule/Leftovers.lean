import TrackSelect.Proofs.ForeignAudio.Reordering
import TrackSelect.Proofs.Rule.Asking

/-!
# Rule-sets over leftovers

Rule-sets behind others go on with the candidates that these have left, and know nothing else of
them: what was picked, searched and failed before only stands in front of their own
(`RuleSet.run_behind`, `RuleSet.run_append`). So a selection can be cut in two behind any rule-set
(`RuleSet.select_append`).

A run stops when nothing is left. Going on would come to the same, since rule-sets are silent on an
empty pool (`RuleSet.narrow_nil`, `RuleSet.runThrough_run`).
-/

namespace TrackSelect

/-! ## Picks behind picks -/

attribute [ext] Picks

namespace Picks

/-- What some rule-sets have come to, and further ones behind them. -/
def append (first second : Picks) : Picks :=
  ⟨first.selected ++ second.selected, first.failures ++ second.failures,
    first.searched ++ second.searched⟩

instance : Append Picks := ⟨append⟩

@[simp] theorem append_selected (first second : Picks) :
    (first ++ second).selected = first.selected ++ second.selected := rfl

@[simp] theorem append_failures (first second : Picks) :
    (first ++ second).failures = first.failures ++ second.failures := rfl

@[simp] theorem append_searched (first second : Picks) :
    (first ++ second).searched = first.searched ++ second.searched := rfl

@[simp] theorem append_none (picks : Picks) : picks ++ {} = picks := by
  ext <;> simp

theorem append_afterSearch (first picks : Picks) (pool : List Track) (pick : ForeignAudio.Pick) :
    (first ++ picks).afterSearch pool pick = first ++ picks.afterSearch pool pick := by
  ext <;> simp [afterSearch]

theorem append_pick (first picks : Picks) (picked : List Track) :
    { first ++ picks with selected := (first ++ picks).selected ++ picked } =
      first ++ { picks with selected := picks.selected ++ picked } := by
  ext <;> simp

end Picks

/-- A search of no tracks comes to nothing and asks for nothing. -/
theorem ForeignAudio.search_nil {σ : Type} (tools : Toolbox σ) (setting : Setting)
    (world : World σ) : search tools setting [] world = (⟨[], []⟩, world) := by
  simp [search, batches, countBatches, pickSparse]

namespace RuleSet

/-! ## What is left -/

@[simp] theorem remaining_nil (pool : List Track) : remaining pool [] = pool := by
  simp [remaining]

/-- Two picks can be taken away together. -/
theorem remaining_remaining (pool first second : List Track) :
    remaining (remaining pool first) second = remaining pool (first ++ second) := by
  unfold remaining
  rw [List.filter_filter]
  refine List.filter_congr fun track _ => ?_
  rw [List.any_append, Bool.not_or, Bool.and_comm]

/-- With distinct indices, what is left are the tracks that were not picked. -/
theorem remaining_eq_filter {pool picked : List Track} (hdistinct : (pool.map Track.index).Nodup)
    (hpicked : picked ⊆ pool) : remaining pool picked = pool.filter (· ∉ picked) := by
  refine List.filter_congr fun track htrack => ?_
  rw [Bool.eq_iff_iff, Bool.not_eq_true', List.any_eq_false, decide_eq_true_eq]
  simp only [beq_iff_eq]
  constructor
  · exact fun hnone hin => hnone track hin rfl
  · -- a picked track with the same index would be this one
    intro hout other hother heq
    exact hout (eq_of_index_eq hdistinct (hpicked hother) htrack heq ▸ hother)

variable {σ : Type} (tools : Toolbox σ) (setting : ForeignAudio.Setting)

/-! ## Rule-sets behind picks -/

/-- What there was before a rule-set stays in front of what it comes to. -/
theorem narrow_behind (first : Picks) (rules : List Rule) {picks after : Picks}
    {world last : World σ} {pool picked : List Track}
    (h : narrow tools setting picks world rules pool = (.ok (picked, after), last)) :
    narrow tools setting (first ++ picks) world rules pool =
      (.ok (picked, first ++ after), last) := by
  induction picks, world, rules, pool using narrow_induction tools setting with
  | done picks world rules pool hdone =>
    rw [narrow_of_isDone hdone] at h
    cases h
    exact narrow_of_isDone hdone
  | search picks world rules pool hopen ih =>
    rw [narrow_of_search tools setting picks world hopen] at h
    rw [narrow_of_search tools setting (first ++ picks) world hopen, Picks.append_afterSearch]
    exact ih h
  | apply picks world rule rules pool kept hrule hopen hkept ih =>
    rw [narrow_of_apply tools setting picks world hrule hopen hkept] at h
    rw [narrow_of_apply tools setting (first ++ picks) world hrule hopen hkept]
    exact ih h

theorem run_behind (first : Picks) (sets : List RuleSet) {picks after : Picks}
    {world last : World σ} {pool : List Track}
    (h : run tools setting picks world sets pool = (.ok after, last)) :
    run tools setting (first ++ picks) world sets pool = (.ok (first ++ after), last) := by
  induction picks, world, sets, pool using run_induction tools setting with
  | done picks world sets pool hover =>
    rw [run_of_isOver hover] at h
    cases h
    exact run_of_isOver hover
  | turn picks world set sets pool picked between now hpool hnarrow ih =>
    rw [run_of_narrow tools setting picks world hpool hnarrow] at h
    rw [run_of_narrow tools setting (first ++ picks) world hpool
      (narrow_behind tools setting first set.rules hnarrow), Picks.append_pick]
    exact ih h

/-! ## A run in two parts -/

/-- Rule-sets behind others go on with what these have left. -/
theorem run_append (before behind : List RuleSet) {picks after : Picks} {world now : World σ}
    {pool : List Track} (h : run tools setting picks world before pool = (.ok after, now)) :
    ∃ picked, after.selected = picks.selected ++ picked ∧
      run tools setting picks world (before ++ behind) pool =
        run tools setting after now behind (remaining pool picked) := by
  induction picks, world, before, pool using run_induction tools setting with
  | done picks world before pool hover =>
    rw [run_of_isOver hover] at h
    cases h
    refine ⟨[], (List.append_nil _).symm, ?_⟩
    rcases hover with rfl | rfl
    · rw [remaining_nil, List.nil_append]
    · rw [remaining_nil, run_of_nil, run_of_nil]
  | turn picks world set before pool picked between later hpool hnarrow ih =>
    obtain ⟨_, _, _, hsame, hselected, -⟩ := narrow_picks tools setting set.rules picks world pool
    cases hnarrow.symm.trans hsame
    rw [run_of_narrow tools setting picks world hpool hnarrow] at h
    obtain ⟨rest, hafter, hrun⟩ := ih h
    refine ⟨picked ++ rest, ?_, ?_⟩
    · rw [hafter, hselected, List.append_assoc]
    · rw [List.cons_append, run_of_narrow tools setting picks world hpool hnarrow, hrun,
        remaining_remaining]

/-! ## Rule-sets on an empty pool -/

/-- **A rule-set is silent on an empty pool**: it picks nothing, asks for nothing and fails with
nothing. It may say of the empty pool that it has searched it. -/
theorem narrow_nil (rules : List Rule) : ∀ (picks : Picks) (world : World σ), ∃ after,
    narrow tools setting picks world rules [] = (.ok ([], after), world) ∧
      after.selected = picks.selected ∧ after.failures = picks.failures := by
  induction rules with
  | nil => exact fun picks world => ⟨picks, rfl, rfl, rfl⟩
  | cons rule rules ih =>
    intro picks world
    -- only a single track is settled, so every rule has its turn
    have hopen : ¬isSettled [] := by decide
    by_cases hrule : rule = .foreignAudio
    · subst hrule
      rw [narrow_of_search tools setting picks world hopen, ForeignAudio.search_nil]
      obtain ⟨after, hrun, hselected, hfailures⟩ := ih (picks.afterSearch [] ⟨[], []⟩) world
      exact ⟨after, hrun, hselected, hfailures.trans (List.append_nil _)⟩
    · obtain ⟨kept, hkept, hsub⟩ := Rule.apply_ok hrule .subtitle []
      rw [List.sublist_nil.1 hsub] at hkept
      rw [narrow_of_apply tools setting picks world hrule hopen hkept]
      exact ih picks world

/-- Run rule-sets over a pool to the last of them, also when nothing is left. -/
def runThrough (picks : Picks) (world : World σ) :
    List RuleSet → List Track → Except Fault Picks × World σ
  | [], _ => (.ok picks, world)
  | set :: sets, pool =>
    match narrow tools setting picks world set.rules pool with
    | (.ok (picked, picks), world) =>
      runThrough { picks with selected := picks.selected ++ picked } world sets
        (remaining pool picked)
    | (.error fault, world) => (.error fault, world)

/-- **Stopping at an empty pool changes nothing** about what is selected, what fails, and what the
world has come to. -/
theorem runThrough_run (sets : List RuleSet) :
    ∀ (picks through : Picks) (world : World σ) (pool : List Track),
      through.selected = picks.selected → through.failures = picks.failures →
      ∃ after after' last, run tools setting picks world sets pool = (.ok after, last) ∧
        runThrough tools setting through world sets pool = (.ok after', last) ∧
        after'.selected = after.selected ∧ after'.failures = after.failures := by
  induction sets with
  | nil =>
    exact fun _ _ world _ hselected hfailures => ⟨_, _, world, rfl, rfl, hselected, hfailures⟩
  | cons set sets ih =>
    intro picks through world pool hselected hfailures
    by_cases hpool : pool = []
    · -- one run has stopped, and the other goes on through rule-sets that are silent
      subst hpool
      obtain ⟨silent, hsilent, hsilentSelected, hsilentFailures⟩ :=
        narrow_nil tools setting set.rules through world
      obtain ⟨after, after', last, hrun, hthrough, hafter⟩ :=
        ih picks { silent with selected := silent.selected ++ [] } world []
          (by simp [hsilentSelected, hselected]) (by simp [hsilentFailures, hfailures])
      rw [run_of_nil] at hrun ⊢
      refine ⟨after, after', last, hrun, ?_, hafter⟩
      rw [runThrough, hsilent]
      exact hthrough
    · -- both come to the same behind what they had before
      obtain ⟨picked, new, now, hnew, -⟩ :=
        narrow_picks tools setting set.rules {} world pool
      have hnarrow := narrow_behind tools setting picks set.rules hnew
      have hnarrow' := narrow_behind tools setting through set.rules hnew
      rw [Picks.append_none] at hnarrow hnarrow'
      rw [run_of_narrow tools setting picks world hpool hnarrow, runThrough, hnarrow']
      exact ih _ _ now (remaining pool picked) (by simp [hselected]) (by simp [hfailures])

/-! ## Tools that answer by a function -/

section AnswersBy

variable {tools setting} {answer : Extraction → Except Fault String}

/-- What a rule-set comes to does not depend on the world then. -/
theorem narrow_answersBy (h : tools.AnswersBy setting.media answer) (rules : List Rule)
    (picks : Picks) (world world' : World σ) (pool : List Track) :
    (narrow tools setting picks world rules pool).1 =
      (narrow tools setting picks world' rules pool).1 := by
  induction picks, world, rules, pool using narrow_induction tools setting generalizing world' with
  | done picks world rules pool hdone => rw [narrow_of_isDone hdone, narrow_of_isDone hdone]
  | search picks world rules pool hopen ih =>
    have hsearch : (ForeignAudio.search tools setting pool world).1 =
        (ForeignAudio.search tools setting pool world').1 := by
      rw [ForeignAudio.search_answersBy h, ForeignAudio.search_answersBy h]
    rw [narrow_of_search tools setting picks world hopen,
      narrow_of_search tools setting picks world' hopen, ← hsearch]
    exact ih _
  | apply picks world rule rules pool kept hrule hopen hkept ih =>
    rw [narrow_of_apply tools setting picks world hrule hopen hkept,
      narrow_of_apply tools setting picks world' hrule hopen hkept]
    exact ih world'

/-- Nor does what a run comes to. -/
theorem run_answersBy (h : tools.AnswersBy setting.media answer) (sets : List RuleSet)
    (picks : Picks) (world world' : World σ) (pool : List Track) :
    (run tools setting picks world sets pool).1 =
      (run tools setting picks world' sets pool).1 := by
  induction picks, world, sets, pool using run_induction tools setting generalizing world' with
  | done picks world sets pool hover => rw [run_of_isOver hover, run_of_isOver hover]
  | turn picks world set sets pool picked after now hpool hnarrow ih =>
    obtain ⟨_, _, now', hnarrow', -⟩ := narrow_picks tools setting set.rules picks world' pool
    have hsame := narrow_answersBy h set.rules picks world world' pool
    rw [hnarrow, hnarrow'] at hsame
    cases hsame
    rw [run_of_narrow tools setting picks world hpool hnarrow,
      run_of_narrow tools setting picks world' hpool hnarrow']
    exact ih now'

end AnswersBy

/-! ## A selection in two parts -/

/-- Rule-sets come to some picks from candidates, ask for some texts, and leave a world behind. -/
structure Selects (sets : List RuleSet) (candidates : List Track) (world : World σ) (picks : Picks)
    (requests : List Extraction) (last : World σ) : Prop where
  run : select tools setting sets candidates world = (.ok picks, last)
  asks : ∀ log, select tools.listing setting sets candidates (world.listed log) =
    (.ok picks, last.listed (log ++ requests))

variable {tools setting} in
/-- The texts are those of the searched pools. -/
theorem Selects.of_select {sets : List RuleSet} {candidates : List Track} {world last : World σ}
    {picks : Picks} (h : select tools setting sets candidates world = (.ok picks, last)) :
    Selects tools setting sets candidates world picks
      (picks.searched.flatMap (ForeignAudio.requests setting)) last where
  run := h
  asks log := by
    obtain ⟨searched, hsearched, hlisting⟩ := run_asks tools setting sets h
    rw [hsearched]
    exact hlisting log

/-- **A selection can be cut in two behind any rule-set.** From candidates with distinct indices,
the rule-sets behind the cut select what they would from the candidates that those in front of it
have left. The two selections and what is asked for on the way stand one behind the other, and the
last failure is that of the second part if it has one, else that of the first. Where the tools
answer by a function, the second part comes to this in any world. And nothing changes if a run goes
on when no candidate is left. -/
theorem select_append (xs ys : List RuleSet) {candidates : List Track}
    (hdistinct : (candidates.map Track.index).Nodup) (world : World σ) :
    ∃ first second picks requests requests' now last,
      Selects tools setting xs candidates world first requests now ∧
      Selects tools setting ys (candidates.filter (· ∉ first.selected)) now second requests' last ∧
      Selects tools setting (xs ++ ys) candidates world picks (requests ++ requests') last ∧
      picks.selected = first.selected ++ second.selected ∧
      picks.failures.getLast? = second.failures.getLast?.or first.failures.getLast? ∧
      (∀ answer, tools.AnswersBy setting.media answer → ∀ other, ∃ final,
        Selects tools setting ys (candidates.filter (· ∉ first.selected)) other second requests'
          final) ∧
      ∀ log, ∃ through,
        runThrough tools.listing setting {} (world.listed log) (xs ++ ys) candidates =
          (.ok through, last.listed (log ++ (requests ++ requests'))) ∧
        through.selected = picks.selected ∧ through.failures = picks.failures := by
  obtain ⟨first, now, hfirst, -, hpart⟩ := select_subperm tools setting xs world hdistinct
  obtain ⟨picked, hpicked, happend⟩ := run_append tools setting xs ys hfirst
  -- no index tells two tracks, so the pool is what the first part has not picked
  have hleft : remaining candidates picked = candidates.filter (· ∉ first.selected) := by
    rw [hpicked] at hpart ⊢
    exact remaining_eq_filter hdistinct hpart.subset
  obtain ⟨second, last, hsecond, -⟩ :=
    run_picks tools setting ys {} now (candidates.filter (· ∉ first.selected))
  have hall : select tools setting (xs ++ ys) candidates world = (.ok (first ++ second), last) := by
    have hbehind := run_behind tools setting first ys hsecond
    rw [Picks.append_none, ← hleft] at hbehind
    exact happend.trans hbehind
  -- the pools of the second part were searched behind those of the first
  have hasks := Selects.of_select hall
  rw [Picks.append_searched, List.flatMap_append] at hasks
  refine ⟨first, second, first ++ second, _, _, now, last, .of_select hfirst, .of_select hsecond,
    hasks, rfl, List.getLast?_append, fun answer hanswer other => ?_, fun log => ?_⟩
  · -- any other world only changes what world it ends in
    obtain ⟨third, final, hthird, -⟩ :=
      run_picks tools setting ys {} other (candidates.filter (· ∉ first.selected))
    have hsame := run_answersBy hanswer ys {} now other (candidates.filter (· ∉ first.selected))
    rw [hsecond, hthird] at hsame
    cases hsame
    exact ⟨final, .of_select hthird⟩
  · obtain ⟨after, through, reached, hrun, hthrough, hselected, hfailures⟩ :=
      runThrough_run tools.listing setting (xs ++ ys) {} {} (world.listed log) candidates rfl rfl
    cases (hasks.asks log).symm.trans hrun
    exact ⟨through, hthrough, hselected, hfailures⟩

/-- The signs are picked first. The search behind them asks for the two texts that are left, finds
nothing and fails for one of them; both are picked as native, and nothing is left for the rest. -/
theorem select_append_threeSubtitles : (threeSubtitles.map Track.index).Nodup ∧
    ∃ (first second picks : Picks) (requests requests' : List Extraction)
      (now last : World (List Inquiry)),
      Selects (.scripted emptyTexts) ⟨"film.mkv", [], 2⟩ [⟨"signs", [.codec ["ass"]]⟩]
        threeSubtitles ⟨.fresh, []⟩ first requests now ∧
      Selects (.scripted emptyTexts) ⟨"film.mkv", [], 2⟩
        [⟨"foreign", [.foreignAudio]⟩, ⟨"native", [.language ["eng"]]⟩, ⟨"rest", []⟩]
        (threeSubtitles.filter (· ∉ first.selected)) now second requests' last ∧
      picks.selected = first.selected ++ second.selected ∧
      picks.selected.map Track.index = [4, 3, 2] ∧
      requests ++ requests' = [.transcript 3 "srt", .transcript 2 "srt"] ∧
      picks.failures.getLast? = some (.extraction 2 "no text") := by
  have hdistinct : (threeSubtitles.map Track.index).Nodup := by decide
  obtain ⟨first, second, picks, requests, requests', now, last, hfirst, hsecond, hall, hselected,
      hfailure, -⟩ := select_append (.scripted emptyTexts) ⟨"film.mkv", [], 2⟩
    [⟨"signs", [.codec ["ass"]]⟩]
    [⟨"foreign", [.foreignAudio]⟩, ⟨"native", [.language ["eng"]]⟩, ⟨"rest", []⟩] hdistinct
    ⟨.fresh, []⟩
  refine ⟨hdistinct, first, second, picks, requests, requests', now, last, hfirst, hsecond,
    hselected, ?_⟩
  have hrun : select (.scripted emptyTexts) ⟨"film.mkv", [], 2⟩
      ([⟨"signs", [.codec ["ass"]]⟩] ++
        [⟨"foreign", [.foreignAudio]⟩, ⟨"native", [.language ["eng"]]⟩, ⟨"rest", []⟩])
      threeSubtitles ⟨.fresh, []⟩ =
        (.ok ⟨threeSubtitles.drop 2 ++ threeSubtitles.take 2, [.extraction 2 "no text"],
          [threeSubtitles.take 2]⟩,
        ⟨.fresh, [.extract (.transcript 2 "srt"), .extract (.transcript 3 "srt")]⟩) := by
    cbv
  cases hall.run.symm.trans hrun
  have hlog := (hall.asks []).symm.trans ((Selects.of_select hrun).asks [])
  simp only [World.listed, List.nil_append, Prod.mk.injEq, World.mk.injEq, true_and] at hlog
  exact ⟨rfl, hlog.trans (by cbv), rfl⟩

end RuleSet

end TrackSelect
