import TrackSelect.Rule.RuleSets

/-!
# Rules only narrow

What every rule has in common, whatever it looks at: it keeps some of the candidates as they are
and in their order (`Rule.apply_ok`). Only a foreign-audio rule cannot be applied, and a chain
without one always comes to a selection (`Chain.select_ok`).

A rule-set goes on rule by rule as long as it is not settled: `RuleSet.narrow_of_search` and
`RuleSet.narrow_of_apply` are the two kinds of steps there are, and `RuleSet.narrow_induction` goes
along them to the end.
-/

namespace TrackSelect

/-- Keeping an extreme keeps some candidates in their order. -/
theorem Extreme.keep_sublist {α : Type} [PartlyOrdered α] (extreme : Extreme)
    (value : Track → Option α) (tracks : List Track) :
    (extreme.keep value tracks).Sublist tracks := by
  unfold Extreme.keep
  split
  · exact List.Sublist.refl tracks
  · exact List.filter_sublist

/-- Keeping a width keeps some candidates in their order. -/
theorem Rule.keepWidth_sublist (width : Nat) (tracks : List Track) :
    (Rule.keepWidth width tracks).Sublist tracks := by
  unfold Rule.keepWidth
  split
  · exact List.Sublist.refl tracks
  · exact List.filter_sublist

/-- Every rule but the search for foreign audio can be applied, and keeps some candidates in
their order. -/
theorem Rule.apply_ok {rule : Rule} (h : rule ≠ .foreignAudio) (kind : Kind)
    (tracks : List Track) :
    ∃ kept, rule.apply kind tracks = .ok kept ∧ kept.Sublist tracks := by
  cases rule with
  | resolution policy =>
    cases policy with
    | extreme bound => exact ⟨_, rfl, bound.keep_sublist Track.width tracks⟩
    | exact width => exact ⟨_, rfl, Rule.keepWidth_sublist width tracks⟩
  | duration bound => exact ⟨_, rfl, bound.keep_sublist Track.length? tracks⟩
  | language allowed => exact ⟨_, rfl, List.filter_sublist⟩
  | codec allowed =>
    by_cases hkind : kind = .video
    · exact ⟨tracks, by simp [Rule.apply, hkind], List.Sublist.refl tracks⟩
    · exact ⟨tracks.filter fun track => allowed.contains track.codec,
        by simp only [Rule.apply, hkind, if_false], List.filter_sublist⟩
  | foreignAudio => exact absurd rfl h

/-- Whatever a rule keeps, it keeps in order. -/
theorem Rule.apply_sublist {rule : Rule} {kind : Kind} {tracks kept : List Track}
    (h : rule.apply kind tracks = .ok kept) : kept.Sublist tracks := by
  have hrule : rule ≠ .foreignAudio := by
    rintro rfl
    cases h
  obtain ⟨some, hsome, hsub⟩ := Rule.apply_ok hrule kind tracks
  cases h.symm.trans hsome
  exact hsub

namespace Chain

/-- Whatever a chain comes to, it comes to some candidates in their order. -/
theorem narrow_sublist {kind : Kind} {rules : List Rule} : ∀ {tracks kept : List Track},
    narrow kind rules tracks = .ok kept → kept.Sublist tracks := by
  induction rules with
  | nil =>
    intro tracks kept h
    cases h
    exact List.Sublist.refl tracks
  | cons rule rules ih =>
    intro tracks kept h
    rw [narrow] at h
    split at h
    · cases h
      exact List.Sublist.refl tracks
    · split at h
      next next hnext => exact (ih h).trans (Rule.apply_sublist hnext)
      next fault hfault => cases h

/-- Rules that can be applied narrow candidates to some of them, in their order. -/
theorem narrow_ok (kind : Kind) (rules : List Rule) (h : .foreignAudio ∉ rules) :
    ∀ tracks, ∃ kept, narrow kind rules tracks = .ok kept ∧ kept.Sublist tracks := by
  induction rules with
  | nil => exact fun tracks => ⟨tracks, rfl, List.Sublist.refl tracks⟩
  | cons rule rules ih =>
    intro tracks
    -- the one rule that cannot be applied is not there
    have hrule : rule ≠ .foreignAudio := fun heq => h (heq ▸ List.mem_cons_self)
    by_cases hsettled : isSettled tracks
    · exact ⟨tracks, by simp [narrow, hsettled], List.Sublist.refl tracks⟩
    · obtain ⟨kept, hkept, hsub⟩ := Rule.apply_ok hrule kind tracks
      obtain ⟨last, hlast, hlastSub⟩ := ih (fun hmem => h (List.mem_cons_of_mem rule hmem)) kept
      refine ⟨last, ?_, hlastSub.trans hsub⟩
      simpa [narrow, hsettled, hkept] using hlast

/-- **A chain without a search comes to a selection**, which is some of the candidates in their
order. -/
theorem select_ok {chain : Chain} (h : .foreignAudio ∉ chain.rules) (tracks : List Track) :
    ∃ kept, chain.select tracks = .ok kept ∧ kept.Sublist tracks :=
  narrow_ok chain.kind chain.rules h tracks

end Chain

/-! ## The steps of a rule-set -/

/-- Picks after a search of a pool. -/
def Picks.afterSearch (picks : Picks) (pool : List Track) (pick : ForeignAudio.Pick) : Picks :=
  { picks with
    failures := picks.failures ++ pick.failures
    searched := picks.searched ++ [pool] }

@[simp] theorem Picks.afterSearch_selected (picks : Picks) (pool : List Track)
    (pick : ForeignAudio.Pick) : (picks.afterSearch pool pick).selected = picks.selected := rfl

@[simp] theorem Picks.afterSearch_failures (picks : Picks) (pool : List Track)
    (pick : ForeignAudio.Pick) :
    (picks.afterSearch pool pick).failures = picks.failures ++ pick.failures := rfl

namespace RuleSet

variable {σ : Type} (tools : Toolbox σ) (setting : ForeignAudio.Setting) (picks : Picks)
  (world : World σ)

/-- A settled pool is final, whatever rules are left. -/
theorem narrow_of_isSettled {pool : List Track} (h : isSettled pool = true) (rules : List Rule) :
    narrow tools setting picks world rules pool = (.ok (pool, picks), world) := by
  cases rules with
  | nil => rfl
  | cons rule rules => rw [narrow.eq_def]; simp [h]

/-- A step that searches the pool. -/
theorem narrow_of_search {pool : List Track} (h : ¬isSettled pool) (rules : List Rule) :
    narrow tools setting picks world (.foreignAudio :: rules) pool =
      narrow tools setting
        (picks.afterSearch pool (ForeignAudio.search tools setting pool world).1)
        (ForeignAudio.search tools setting pool world).2 rules
        (ForeignAudio.search tools setting pool world).1.selected := by
  rw [narrow.eq_def]
  simp [h, Picks.afterSearch]

/-- A step that applies any other rule. -/
theorem narrow_of_apply {rule : Rule} (hrule : rule ≠ .foreignAudio) {pool kept : List Track}
    (h : ¬isSettled pool) (hkept : rule.apply .subtitle pool = .ok kept) (rules : List Rule) :
    narrow tools setting picks world (rule :: rules) pool =
      narrow tools setting picks world rules kept := by
  rw [narrow.eq_def]
  simp [h, hkept]

/-- A rule-set has come to its end: no rule is left, or the pool is settled. -/
def IsDone (rules : List Rule) (pool : List Track) : Prop :=
  rules = [] ∨ isSettled pool = true

variable {tools setting picks world}

/-- Then it picks the pool. -/
theorem narrow_of_isDone {rules : List Rule} {pool : List Track} (h : IsDone rules pool) :
    narrow tools setting picks world rules pool = (.ok (pool, picks), world) := by
  rcases h with rfl | hsettled
  · rfl
  · exact narrow_of_isSettled tools setting picks world hsettled rules

variable (tools setting)

/-- **Induction along a rule-set.** It is at its end, or it goes on from the pick of a search, or
from what another rule keeps of the pool. Nothing else can happen, since every other rule can be
applied. -/
theorem narrow_induction {motive : Picks → World σ → List Rule → List Track → Prop}
    (done : ∀ picks world rules pool, IsDone rules pool → motive picks world rules pool)
    (search : ∀ picks world rules pool, ¬isSettled pool →
      motive (picks.afterSearch pool (ForeignAudio.search tools setting pool world).1)
        (ForeignAudio.search tools setting pool world).2 rules
        (ForeignAudio.search tools setting pool world).1.selected →
      motive picks world (.foreignAudio :: rules) pool)
    (apply : ∀ picks world rule rules pool kept, rule ≠ .foreignAudio → ¬isSettled pool →
      rule.apply .subtitle pool = .ok kept → motive picks world rules kept →
      motive picks world (rule :: rules) pool) (picks : Picks) (world : World σ)
    (rules : List Rule) (pool : List Track) : motive picks world rules pool := by
  induction rules generalizing picks world pool with
  | nil => exact done picks world [] pool (.inl rfl)
  | cons rule rules ih =>
    by_cases hsettled : isSettled pool
    · exact done picks world _ pool (.inr hsettled)
    · by_cases hrule : rule = .foreignAudio
      · subst hrule
        exact search picks world rules pool hsettled (ih _ _ _)
      · obtain ⟨kept, hkept, -⟩ := Rule.apply_ok hrule .subtitle pool
        exact apply picks world rule rules pool kept hrule hsettled hkept (ih picks world kept)

/-- Rules behind others go on with what these come to. If that is settled, they leave it so. -/
theorem narrow_append (before behind : List Rule) {picks sofar : Picks} {world now : World σ}
    {pool reached : List Track}
    (h : narrow tools setting picks world before pool = (.ok (reached, sofar), now)) :
    narrow tools setting picks world (before ++ behind) pool =
      narrow tools setting sofar now behind reached := by
  induction picks, world, before, pool using narrow_induction tools setting with
  | done picks world before pool hdone =>
    rw [narrow_of_isDone hdone] at h
    cases h
    rcases hdone with rfl | hsettled
    · rfl
    · rw [narrow_of_isSettled tools setting sofar now hsettled,
        narrow_of_isSettled tools setting sofar now hsettled]
  | search picks world before pool hopen ih =>
    rw [narrow_of_search tools setting picks world hopen] at h
    rw [List.cons_append, narrow_of_search tools setting picks world hopen]
    exact ih h
  | apply picks world rule before pool kept hrule hopen hkept ih =>
    rw [narrow_of_apply tools setting picks world hrule hopen hkept] at h
    rw [List.cons_append, narrow_of_apply tools setting picks world hrule hopen hkept]
    exact ih h

variable (picks world)

/-- A run over an empty pool is at its end. -/
theorem run_of_nil (sets : List RuleSet) :
    run tools setting picks world sets [] = (.ok picks, world) := by
  cases sets with
  | nil => rfl
  | cons set sets => simp [run]

/-- A run adds the pick of a rule-set and goes on with what is left. -/
theorem run_of_narrow {set : RuleSet} {pool picked : List Track} {after : Picks}
    {world' : World σ} (hpool : pool ≠ [])
    (h : narrow tools setting picks world set.rules pool = (.ok (picked, after), world'))
    (sets : List RuleSet) :
    run tools setting picks world (set :: sets) pool =
      run tools setting { after with selected := after.selected ++ picked } world' sets
        (remaining pool picked) := by
  simp only [run, hpool, if_false, h]

end RuleSet

end TrackSelect
