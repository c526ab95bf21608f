import Mathlib.Data.List.Perm.Basic
import TrackSelect.Proofs.ForeignAudio.Sparse

/-!
# Searches and the order of a pool

When tools answer by a function, the cues of every track of a pool are counted for themselves
(`search_answersBy`): it does not matter which batch a track is in and what was extracted
before. So a search of the same pool in another order picks the same tracks, and has the same
failures in another order (`search_perm`).
-/

namespace TrackSelect.ForeignAudio

/-! ## The sparse tracks -/

/-- The largest number of cues is the same in every order. -/
theorem largest_perm {counts₁ counts₂ : List (Nat × Track)} (h : counts₁.Perm counts₂) :
    ((counts₁.mergeSort fun a b => b.1 ≤ a.1).head?.map Prod.fst) =
      ((counts₂.mergeSort fun a b => b.1 ≤ a.1).head?.map Prod.fst) := by
  have hsorted : ∀ counts : List (Nat × Track),
      ((counts.mergeSort fun a b => b.1 ≤ a.1).map Prod.fst).Pairwise fun m n => n ≤ m := by
    exact fun counts => List.pairwise_map.2 (pairwise_largestFirst counts)
  have hperm : ((counts₁.mergeSort fun a b => b.1 ≤ a.1).map Prod.fst).Perm
      ((counts₂.mergeSort fun a b => b.1 ≤ a.1).map Prod.fst) :=
    (((List.mergeSort_perm counts₁ _).trans h).trans (List.mergeSort_perm counts₂ _).symm).map _
  -- equal counts may belong to different tracks, but the counts alone are one and the same list
  have heq := hperm.eq_of_pairwise (fun m n _ _ hmn hnm => Nat.le_antisymm hnm hmn)
    (hsorted counts₁) (hsorted counts₂)
  rw [← List.head?_map, ← List.head?_map, heq]

/-- The same tracks are sparse in every order. -/
theorem pickSparse_perm {counts₁ counts₂ : List (Nat × Track)} (h : counts₁.Perm counts₂) :
    (pickSparse counts₁).Perm (pickSparse counts₂) := by
  have hcounts : (counts₁.mergeSort fun a b => b.1 ≤ a.1).Perm
      (counts₂.mergeSort fun a b => b.1 ≤ a.1) :=
    ((List.mergeSort_perm counts₁ _).trans h).trans (List.mergeSort_perm counts₂ _).symm
  unfold pickSparse
  simp only [largest_perm h]
  refine (List.mergeSort_perm _ _).trans (List.Perm.trans ?_ (List.mergeSort_perm _ _).symm)
  exact (hcounts.filter _).map Prod.snd

/-! ## The search -/

variable {setting : Setting} {answer : Extraction → Except Fault String}

/-- A search counts its pool track by track, whatever the batches are. -/
theorem search_answersBy {σ : Type} {tools : Toolbox σ} (h : tools.AnswersBy setting.media answer)
    (pool : List Track) (world : World σ) :
    (search tools setting pool world).1 =
      ⟨pickSparse ((pool.map fun track =>
          (track, answer (extraction setting track))).filterMap (counted? setting)),
        (pool.map fun track =>
          (track, answer (extraction setting track))).filterMap (uncounted? setting)⟩ := by
  rw [search_eq, answered_of_answersBy setting tools h, flatten_batches]

/-- **A search picks the same tracks of a pool in every order**, and has the same failures. -/
theorem search_perm {σ₁ σ₂ : Type} {tools₁ : Toolbox σ₁} {tools₂ : Toolbox σ₂}
    (h₁ : tools₁.AnswersBy setting.media answer) (h₂ : tools₂.AnswersBy setting.media answer)
    {pool₁ pool₂ : List Track} (hpool : pool₁.Perm pool₂) (world₁ : World σ₁) (world₂ : World σ₂) :
    (search tools₁ setting pool₁ world₁).1.selected.Perm
        (search tools₂ setting pool₂ world₂).1.selected ∧
      (search tools₁ setting pool₁ world₁).1.failures.Perm
        (search tools₂ setting pool₂ world₂).1.failures := by
  rw [search_answersBy h₁, search_answersBy h₂]
  exact ⟨pickSparse_perm ((hpool.map _).filterMap _), (hpool.map _).filterMap _⟩

end TrackSelect.ForeignAudio
