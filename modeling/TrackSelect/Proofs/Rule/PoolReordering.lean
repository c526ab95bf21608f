import TrackSelect.Proofs.ForeignAudio.Reordering
import TrackSelect.Proofs.Rule.Pool
import TrackSelect.Proofs.Rule.Reordering
import TrackSelect.Rule.RuleSets

/-!
# Rule-sets and the order of candidates

Two runs of the same rule-sets over the same candidates in different orders, with tools that
answer by the same function, go alike turn by turn: the pools stay the same up to their order
(`remaining_perm`), and so do the picks and the failures (`select_perm`).
-/

namespace TrackSelect

/-- Picks that are the same up to their order, after the same failures up to their order. -/
structure Picks.Reordered (picks₁ picks₂ : Picks) : Prop where
  selected : picks₁.selected.Perm picks₂.selected
  failures : picks₁.failures.Perm picks₂.failures

namespace RuleSet

/-- What is left of a pool does not depend on its order or that of the pick. -/
theorem remaining_perm {pool₁ pool₂ picked₁ picked₂ : List Track} (hpool : pool₁.Perm pool₂)
    (hpicked : picked₁.Perm picked₂) :
    (remaining pool₁ picked₁).Perm (remaining pool₂ picked₂) := by
  -- the order of the pick does not matter, then that of the pool decides the order only
  have hsame : remaining pool₁ picked₁ = remaining pool₁ picked₂ := by
    unfold remaining
    refine List.filter_congr fun track _ => ?_
    rw [hpicked.any_eq]
  rw [hsame]
  exact hpool.filter _

variable {σ₁ σ₂ : Type} {tools₁ : Toolbox σ₁} {tools₂ : Toolbox σ₂}
  (setting : ForeignAudio.Setting) {answer : Extraction → Except Fault String}

/-- **A rule-set picks the same tracks of a pool in every order.** -/
theorem narrow_perm (h₁ : tools₁.AnswersBy setting.media answer)
    (h₂ : tools₂.AnswersBy setting.media answer) (rules : List Rule) {picks₁ picks₂ : Picks}
    {pool₁ pool₂ : List Track} (world₁ : World σ₁) (world₂ : World σ₂)
    (hpicks : picks₁.Reordered picks₂) (hpool : pool₁.Perm pool₂) :
    ∃ picked₁ after₁ last₁ picked₂ after₂ last₂,
      narrow tools₁ setting picks₁ world₁ rules pool₁ = (.ok (picked₁, after₁), last₁) ∧
      narrow tools₂ setting picks₂ world₂ rules pool₂ = (.ok (picked₂, after₂), last₂) ∧
      picked₁.Perm picked₂ ∧ after₁.Reordered after₂ := by
  induction picks₁, world₁, rules, pool₁ using narrow_induction tools₁ setting
    generalizing picks₂ world₂ pool₂ with
  | done picks₁ world₁ rules pool₁ hdone =>
    -- the pools have the same size, so both runs stop at the same rule
    have hdone₂ : IsDone rules pool₂ := hdone.imp_right (isSettled_perm hpool).symm.trans
    exact ⟨pool₁, picks₁, world₁, pool₂, picks₂, world₂, narrow_of_isDone hdone,
      narrow_of_isDone hdone₂, hpool, hpicks⟩
  | search picks₁ world₁ rules pool₁ hopen ih =>
    have hopen₂ : ¬isSettled pool₂ := by rwa [← isSettled_perm hpool]
    obtain ⟨hselected, hfailures⟩ := ForeignAudio.search_perm h₁ h₂ hpool world₁ world₂
    rw [narrow_of_search tools₁ setting picks₁ world₁ hopen,
      narrow_of_search tools₂ setting picks₂ world₂ hopen₂]
    exact ih _ ⟨hpicks.selected, hpicks.failures.append hfailures⟩ hselected
  | apply picks₁ world₁ rule rules pool₁ kept hrule hopen hkept ih =>
    have hopen₂ : ¬isSettled pool₂ := by rwa [← isSettled_perm hpool]
    obtain ⟨kept₁, kept₂, hkept₁, hkept₂, hperm⟩ := Rule.apply_perm hrule .subtitle hpool
    cases hkept.symm.trans hkept₁
    rw [narrow_of_apply tools₁ setting picks₁ world₁ hrule hopen hkept₁,
      narrow_of_apply tools₂ setting picks₂ world₂ hrule hopen₂ hkept₂]
    exact ih world₂ hpicks hperm

/-- A run over the same pool in another order makes the same picks. -/
theorem run_perm (h₁ : tools₁.AnswersBy setting.media answer)
    (h₂ : tools₂.AnswersBy setting.media answer) (sets : List RuleSet) {picks₁ picks₂ : Picks}
    {pool₁ pool₂ : List Track} (world₁ : World σ₁) (world₂ : World σ₂)
    (hpicks : picks₁.Reordered picks₂) (hpool : pool₁.Perm pool₂) :
    ∃ after₁ last₁ after₂ last₂,
      run tools₁ setting picks₁ world₁ sets pool₁ = (.ok after₁, last₁) ∧
      run tools₂ setting picks₂ world₂ sets pool₂ = (.ok after₂, last₂) ∧
      after₁.Reordered after₂ := by
  induction picks₁, world₁, sets, pool₁ using run_induction tools₁ setting
    generalizing picks₂ world₂ pool₂ with
  | done picks₁ world₁ sets pool₁ hover =>
    have hover₂ : IsOver sets pool₂ := hover.imp_right fun hempty => by simpa [hempty] using hpool
    exact ⟨picks₁, world₁, picks₂, world₂, run_of_isOver hover, run_of_isOver hover₂, hpicks⟩
  | turn picks₁ world₁ set sets pool₁ picked after now hopen hnarrow ih =>
    have hopen₂ : pool₂ ≠ [] := fun hempty => hopen (by simpa [hempty] using hpool)
    obtain ⟨_, _, _, picked₂, after₂, last₂, hnarrow₁, hnarrow₂, hpicked, hafter⟩ :=
      narrow_perm setting h₁ h₂ set.rules world₁ world₂ hpicks hpool
    cases hnarrow.symm.trans hnarrow₁
    rw [run_of_narrow tools₁ setting picks₁ world₁ hopen hnarrow₁,
      run_of_narrow tools₂ setting picks₂ world₂ hopen₂ hnarrow₂]
    exact ih last₂ ⟨hafter.selected.append hpicked, hafter.failures⟩ (remaining_perm hpool hpicked)

/-- **Rule-sets select the same tracks of candidates in every order.** -/
theorem select_perm (h₁ : tools₁.AnswersBy setting.media answer)
    (h₂ : tools₂.AnswersBy setting.media answer) {sets : List RuleSet}
    {candidates₁ candidates₂ : List Track} (h : candidates₁.Perm candidates₂)
    {world₁ after₁ : World σ₁} {world₂ after₂ : World σ₂} {picks₁ picks₂ : Picks}
    (hselect₁ : select tools₁ setting sets candidates₁ world₁ = (.ok picks₁, after₁))
    (hselect₂ : select tools₂ setting sets candidates₂ world₂ = (.ok picks₂, after₂)) :
    picks₁.Reordered picks₂ := by
  have hnone : Picks.Reordered {} {} := ⟨List.Perm.refl [], List.Perm.refl []⟩
  obtain ⟨last₁, end₁, last₂, end₂, hlast₁, hlast₂, hlast⟩ :=
    run_perm setting h₁ h₂ sets world₁ world₂ hnone h
  cases hselect₁.symm.trans hlast₁
  cases hselect₂.symm.trans hlast₂
  exact hlast

end RuleSet

end TrackSelect
