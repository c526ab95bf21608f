import Mathlib.Data.List.Basic
import TrackSelect.Proofs.ForeignAudio.Counting
import TrackSelect.Proofs.Rule.Pool
import TrackSelect.Proofs.Toolbox.Recording

/-!
# What rule-sets ask for

A rule-set goes through its rules as any chain does, and asks the tools for nothing unless it comes
to a search. So it selects what the chain selects whenever the chain comes to a selection, and
leaves the world alone then (`RuleSet.narrow_of_select`). Otherwise it asks for the texts of the
candidates that its searches come to with two or more of them left, and for nothing else
(`RuleSet.narrow_asks`). In a run these are the pools that it notes as searched
(`RuleSet.select_asks`).
-/

namespace TrackSelect

variable {σ : Type} (tools : Toolbox σ)

/-! ## Searches -/

namespace ForeignAudio

variable (setting : Setting)

/-- The requests for the texts of some tracks. -/
abbrev requests (tracks : List Track) : List Extraction := tracks.map (extraction setting)

theorem countBatches_listing (pools : List (List Track)) :
    ∀ (tally : Tally) (world : World σ) (log : List Extraction),
      countBatches tools.listing setting tally (world.listed log) pools =
        ((countBatches tools setting tally world pools).1,
          (countBatches tools setting tally world pools).2.listed
            (log ++ requests setting pools.flatten)) := by
  induction pools with
  | nil => intro tally world log; simp [countBatches]
  | cons batch rest ih =>
    intro tally world log
    -- a batch is one request for all of its texts
    have hbatch : countBatch tools.listing setting tally (world.listed log) batch =
        ((countBatch tools setting tally world batch).1,
          (countBatch tools setting tally world batch).2.listed
            (log ++ requests setting batch)) := by
      rw [countBatch, Toolbox.listing_extractAll]
      rfl
    rw [countBatches, hbatch]
    simp only [ih, requests, List.flatten_cons, List.map_append, List.append_assoc]
    rfl

/-- **A search asks for the text of every track of its pool, once and in order.** -/
theorem search_listing (pool : List Track) (world : World σ) (log : List Extraction) :
    search tools.listing setting pool (world.listed log) =
      ((search tools setting pool world).1,
        (search tools setting pool world).2.listed (log ++ requests setting pool)) := by
  rw [search, countBatches_listing, flatten_batches]
  rfl

end ForeignAudio

namespace RuleSet

variable (setting : ForeignAudio.Setting)

/-! ## One rule-set and its chain -/

/-- **A rule-set selects what its chain selects**, if the chain comes to a selection. No search is
come to then, and the tools are not asked for anything. -/
theorem narrow_of_select {rules : List Rule} (picks : Picks) (world : World σ) :
    ∀ {pool selected : List Track}, Chain.narrow .subtitle rules pool = .ok selected →
      narrow tools setting picks world rules pool = (.ok (selected, picks), world) := by
  induction rules with
  | nil =>
    intro pool selected h
    cases h
    rfl
  | cons rule rules ih =>
    intro pool selected h
    rw [Chain.narrow] at h
    split at h
    next hsettled =>
      cases h
      exact narrow_of_isSettled tools setting picks world hsettled _
    next hopen =>
      split at h
      next kept hkept =>
        -- a chain cannot go on over a search
        have hrule : rule ≠ .foreignAudio := by
          rintro rfl
          cases hkept
        rw [narrow_of_apply tools setting picks world hrule hopen hkept]
        exact ih h
      next => cases h

/-! ## Requests by the places of rules -/

/-- The tracks that are left when the rule at a place has its turn. -/
def leftAt (picks : Picks) (world : World σ) (rules : List Rule) (pool : List Track) (n : Nat) :
    List Track :=
  match narrow tools setting picks world (rules.take n) pool with
  | (.ok (left, _), _) => left
  | (.error _, _) => []

/-- What the rule at a place asks for: if it is a search, and two or more tracks are left, the texts
of these. -/
def requestsAt (picks : Picks) (world : World σ) (rules : List Rule) (pool : List Track) (n : Nat) :
    List Extraction :=
  if rules[n]? = some .foreignAudio ∧ 2 ≤ (leftAt tools setting picks world rules pool n).length
  then ForeignAudio.requests setting (leftAt tools setting picks world rules pool n)
  else []

variable {picks : Picks} {world : World σ} {pool : List Track}

theorem leftAt_of_isSettled (h : isSettled pool = true) (rules : List Rule) (n : Nat) :
    leftAt tools setting picks world rules pool n = pool := by
  rw [leftAt, narrow_of_isSettled tools setting picks world h]

theorem requestsAt_of_isSettled (h : isSettled pool = true) (rules : List Rule) (n : Nat) :
    requestsAt tools setting picks world rules pool n = [] := by
  rw [requestsAt, leftAt_of_isSettled tools setting h, if_neg]
  rintro ⟨-, htwo⟩
  rw [isSettled, beq_iff_eq] at h
  omega

/-- The first rule asks for the whole pool if it is a search. -/
theorem requestsAt_zero_of_search (hopen : ¬isSettled pool) (rules : List Rule) :
    requestsAt tools setting picks world (.foreignAudio :: rules) pool 0 =
      ForeignAudio.requests setting pool := by
  have hleft : leftAt tools setting picks world (.foreignAudio :: rules) pool 0 = pool := rfl
  rw [requestsAt, hleft]
  split
  · rfl
  · next hnone =>
    -- of an empty pool nothing is asked for either way
    rw [isSettled, beq_iff_eq] at hopen
    have hshort : ¬2 ≤ pool.length := fun htwo => hnone ⟨rfl, htwo⟩
    have hempty : pool = [] := List.length_eq_zero_iff.1 (by omega)
    rw [hempty, ForeignAudio.requests, List.map_nil]

theorem requestsAt_zero_of_apply {rule : Rule} (hrule : rule ≠ .foreignAudio) (rules : List Rule) :
    requestsAt tools setting picks world (rule :: rules) pool 0 = [] := by
  rw [requestsAt, if_neg]
  rintro ⟨hfirst, -⟩
  exact hrule (Option.some.inj hfirst)

/-- Behind a search the rules ask for what they would of its pick. -/
theorem requestsAt_succ_of_search (hopen : ¬isSettled pool) (rules : List Rule) (n : Nat) :
    requestsAt tools setting picks world (.foreignAudio :: rules) pool (n + 1) =
      requestsAt tools setting
        (picks.afterSearch pool (ForeignAudio.search tools setting pool world).1)
        (ForeignAudio.search tools setting pool world).2 rules
        (ForeignAudio.search tools setting pool world).1.selected n := by
  have hleft : leftAt tools setting picks world (.foreignAudio :: rules) pool (n + 1) =
      leftAt tools setting
        (picks.afterSearch pool (ForeignAudio.search tools setting pool world).1)
        (ForeignAudio.search tools setting pool world).2 rules
        (ForeignAudio.search tools setting pool world).1.selected n := by
    rw [leftAt, leftAt, List.take_succ_cons, narrow_of_search tools setting picks world hopen]
  rw [requestsAt, requestsAt, hleft, List.getElem?_cons_succ]

theorem requestsAt_succ_of_apply {rule : Rule} (hrule : rule ≠ .foreignAudio) {kept : List Track}
    (hopen : ¬isSettled pool) (hkept : rule.apply .subtitle pool = .ok kept) (rules : List Rule)
    (n : Nat) :
    requestsAt tools setting picks world (rule :: rules) pool (n + 1) =
      requestsAt tools setting picks world rules kept n := by
  have hleft : leftAt tools setting picks world (rule :: rules) pool (n + 1) =
      leftAt tools setting picks world rules kept n := by
    rw [leftAt, leftAt, List.take_succ_cons,
      narrow_of_apply tools setting picks world hrule hopen hkept]
  rw [requestsAt, requestsAt, hleft, List.getElem?_cons_succ]

/-- What a rule-set asks for, rule by rule. -/
def requested (picks : Picks) (world : World σ) (rules : List Rule) (pool : List Track) :
    List Extraction :=
  (List.range rules.length).flatMap (requestsAt tools setting picks world rules pool)

theorem requested_of_isDone {rules : List Rule} (h : IsDone rules pool) :
    requested tools setting picks world rules pool = [] := by
  rcases h with rfl | hsettled
  · rfl
  · exact List.flatMap_eq_nil_iff.2 fun n _ => requestsAt_of_isSettled tools setting hsettled rules n

/-- The requests of some rules are those of the first and those of the rules behind it. -/
theorem requested_cons (rule : Rule) (rules : List Rule) :
    requested tools setting picks world (rule :: rules) pool =
      requestsAt tools setting picks world (rule :: rules) pool 0 ++
        (List.range rules.length).flatMap fun n =>
          requestsAt tools setting picks world (rule :: rules) pool (n + 1) := by
  rw [requested, List.length_cons, List.range_succ_eq_map, List.flatMap_cons, List.flatMap_map]

/-- A search asks for the whole pool, and the rules behind it go on with its pick. -/
theorem requested_of_search (hopen : ¬isSettled pool) (rules : List Rule) :
    requested tools setting picks world (.foreignAudio :: rules) pool =
      ForeignAudio.requests setting pool ++
        requested tools setting
          (picks.afterSearch pool (ForeignAudio.search tools setting pool world).1)
          (ForeignAudio.search tools setting pool world).2 rules
          (ForeignAudio.search tools setting pool world).1.selected := by
  simp only [requested_cons, requestsAt_zero_of_search tools setting hopen,
    requestsAt_succ_of_search tools setting hopen]
  rfl

theorem requested_of_apply {rule : Rule} (hrule : rule ≠ .foreignAudio) {kept : List Track}
    (hopen : ¬isSettled pool) (hkept : rule.apply .subtitle pool = .ok kept) (rules : List Rule) :
    requested tools setting picks world (rule :: rules) pool =
      requested tools setting picks world rules kept := by
  simp only [requested_cons, requestsAt_zero_of_apply tools setting hrule, List.nil_append,
    requestsAt_succ_of_apply tools setting hrule hopen hkept]
  rfl

/-- **A rule-set asks for the texts of the pools that it searches**, and these are the ones that its
searches come to with two or more tracks left. -/
theorem narrow_asks (rules : List Rule) (picks : Picks) (world : World σ) (pool : List Track) :
    ∃ picked after last searched,
      narrow tools setting picks world rules pool = (.ok (picked, after), last) ∧
      after.searched = picks.searched ++ searched ∧
      searched.flatMap (ForeignAudio.requests setting) =
        requested tools setting picks world rules pool ∧
      ∀ log, narrow tools.listing setting picks (world.listed log) rules pool =
        (.ok (picked, after),
          last.listed (log ++ requested tools setting picks world rules pool)) := by
  induction picks, world, rules, pool using narrow_induction tools setting with
  | done picks world rules pool hdone =>
    rw [requested_of_isDone tools setting hdone]
    refine ⟨pool, picks, world, [], narrow_of_isDone hdone, by simp, rfl, fun log => ?_⟩
    rw [narrow_of_isDone hdone, List.append_nil]
  | search picks world rules pool hopen ih =>
    obtain ⟨picked, after, last, searched, hrun, hsearched, hrequested, hlisting⟩ := ih
    rw [requested_of_search tools setting hopen]
    -- this pool comes before those of the rules behind, as do the requests for its texts
    refine ⟨picked, after, last, pool :: searched, ?_, ?_, ?_, fun log => ?_⟩
    · rw [narrow_of_search tools setting picks world hopen, hrun]
    · rw [hsearched, Picks.afterSearch, List.append_assoc, List.singleton_append]
    · rw [List.flatMap_cons, hrequested]
    · rw [narrow_of_search tools.listing setting picks _ hopen, ForeignAudio.search_listing,
        hlisting, List.append_assoc]
  | apply picks world rule rules pool kept hrule hopen hkept ih =>
    obtain ⟨picked, after, last, searched, hrun, hsearched, hrequested, hlisting⟩ := ih
    rw [requested_of_apply tools setting hrule hopen hkept]
    refine ⟨picked, after, last, searched, ?_, hsearched, hrequested, fun log => ?_⟩
    · rw [narrow_of_apply tools setting picks world hrule hopen hkept, hrun]
    · rw [narrow_of_apply tools.listing setting picks _ hrule hopen hkept, hlisting]

/-- A run asks for the texts of the pools that it searches. -/
theorem run_asks (sets : List RuleSet) {picks after : Picks} {world last : World σ}
    {pool : List Track} (h : run tools setting picks world sets pool = (.ok after, last)) :
    ∃ searched, after.searched = picks.searched ++ searched ∧
      ∀ log, run tools.listing setting picks (world.listed log) sets pool =
        (.ok after, last.listed (log ++ searched.flatMap (ForeignAudio.requests setting))) := by
  induction picks, world, sets, pool using run_induction tools setting with
  | done picks world sets pool hover =>
    rw [run_of_isOver hover] at h
    cases h
    refine ⟨[], by simp, fun log => ?_⟩
    rw [run_of_isOver hover, List.flatMap_nil, List.append_nil]
  | turn picks world set sets pool picked between now hpool hnarrow ih =>
    obtain ⟨_, _, _, searched, hsame, hsearched, hrequested, hlisting⟩ :=
      narrow_asks tools setting set.rules picks world pool
    -- under listing tools this turn leaves the same behind, so the rest goes the same way
    cases hnarrow.symm.trans hsame
    rw [run_of_narrow tools setting picks world hpool hnarrow] at h
    obtain ⟨later, hlater, hrest⟩ := ih h
    refine ⟨searched ++ later, ?_, fun log => ?_⟩
    · rw [hlater, hsearched, List.append_assoc]
    · rw [run_of_narrow tools.listing setting picks _ hpool (hlisting log), hrest,
        List.flatMap_append, hrequested, List.append_assoc]

/-- **Rule-sets and chains go the same way.** Without a search among its rules, a chain comes to a
selection. Whenever it does, also with a search that is not come to, the rule-set selects the same;
then nothing is asked for, no failure is added, and the world stays as it is. In any case the
rule-set asks for exactly what its searches ask for: one that has its turn with two or more tracks
left for the text of each of these, in order, and any other one for nothing. -/
theorem narrow_select (set : RuleSet) (picks : Picks) (world : World σ) (pool : List Track) :
    (.foreignAudio ∉ set.rules → ∃ selected, set.chain.select pool = .ok selected) ∧
    (∀ selected, set.chain.select pool = .ok selected →
      narrow tools setting picks world set.rules pool = (.ok (selected, picks), world) ∧
      ∀ log, narrow tools.listing setting picks (world.listed log) set.rules pool =
        (.ok (selected, picks), world.listed log)) ∧
    ∃ picked after last,
      narrow tools setting picks world set.rules pool = (.ok (picked, after), last) ∧
      ∀ log, narrow tools.listing setting picks (world.listed log) set.rules pool =
        (.ok (picked, after),
          last.listed (log ++ requested tools setting picks world set.rules pool)) := by
  refine ⟨fun hrules => ?_, fun selected hselected => ⟨?_, fun log => ?_⟩, ?_⟩
  · have hchain : .foreignAudio ∉ set.chain.rules := hrules
    obtain ⟨selected, hselected, -⟩ := Chain.select_ok hchain pool
    exact ⟨selected, hselected⟩
  · exact narrow_of_select tools setting picks world hselected
  · exact narrow_of_select tools.listing setting picks (world.listed log) hselected
  · obtain ⟨picked, after, last, -, hrun, -, -, hlisting⟩ :=
      narrow_asks tools setting set.rules picks world pool
    exact ⟨picked, after, last, hrun, hlisting⟩

/-- Without a search two subtitles are selected, and with one that comes too late another. A search
among two asks for both texts, and one behind it, with no track left, for none. -/
theorem narrow_select_threeSubtitles :
    (.foreignAudio ∉ [Rule.codec ["subrip"], .language ["eng"]] ∧
      narrow (.scripted emptyTexts) ⟨"film.mkv", [], 2⟩ {} ⟨.fresh, []⟩
        [.codec ["subrip"], .language ["eng"]] threeSubtitles =
          (.ok (threeSubtitles.take 2, {}), ⟨.fresh, []⟩)) ∧
    narrow (.scripted emptyTexts) ⟨"film.mkv", [], 2⟩ {} ⟨.fresh, []⟩
      [.codec ["ass"], .foreignAudio] threeSubtitles =
        (.ok (threeSubtitles.drop 2, {}), ⟨.fresh, []⟩) ∧
    ∃ picked after last,
      narrow (Toolbox.scripted emptyTexts).listing ⟨"film.mkv", [], 2⟩ {}
        (World.listed ⟨.fresh, []⟩ []) [.language ["eng"], .foreignAudio, .foreignAudio]
        threeSubtitles =
          (.ok (picked, after), World.listed last [.transcript 3 "srt", .transcript 2 "srt"]) := by
  have hrules : .foreignAudio ∉ [Rule.codec ["subrip"], .language ["eng"]] := by decide
  refine ⟨⟨hrules, ?_⟩, ?_, ?_⟩
  · obtain ⟨hsome, hsame, -⟩ := narrow_select (.scripted emptyTexts) ⟨"film.mkv", [], 2⟩
      ⟨"both", [.codec ["subrip"], .language ["eng"]]⟩ {} ⟨.fresh, []⟩ threeSubtitles
    obtain ⟨selected, hselected⟩ := hsome hrules
    have htwo : selected = threeSubtitles.take 2 := Except.ok.inj (hselected.symm.trans (by cbv))
    rw [← htwo]
    exact (hsame selected hselected).1
  · have hsame := (narrow_select (.scripted emptyTexts) ⟨"film.mkv", [], 2⟩
      ⟨"late", [.codec ["ass"], .foreignAudio]⟩ {} ⟨.fresh, []⟩ threeSubtitles).2.1
    exact (hsame _ (by cbv)).1
  · obtain ⟨-, -, picked, after, last, -, hlisting⟩ := narrow_select (.scripted emptyTexts)
      ⟨"film.mkv", [], 2⟩ ⟨"foreign", [.language ["eng"], .foreignAudio, .foreignAudio]⟩ {}
      ⟨.fresh, []⟩ threeSubtitles
    refine ⟨picked, after, last, (hlisting []).trans ?_⟩
    have hrequested : requested (.scripted emptyTexts) ⟨"film.mkv", [], 2⟩ {} ⟨.fresh, []⟩
        [.language ["eng"], .foreignAudio, .foreignAudio] threeSubtitles =
          [.transcript 3 "srt", .transcript 2 "srt"] := by cbv
    rw [hrequested, List.nil_append]

end RuleSet

end TrackSelect
