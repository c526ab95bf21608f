import Mathlib.Data.List.Sort
import TrackSelect.Proofs.ForeignAudio.Counting

/-!
# What a search picks

Whatever the tools answer, a search picks some tracks of its pool, none of them more often than
it is there (`search_subperm`), in the order of their indices (`search_pairwise`). Both sorts of
`pickSparse` are taken care of here.
-/

namespace TrackSelect.ForeignAudio

/-! ## The sparse tracks -/

/-- A list that was sorted by a total order is in that order. -/
theorem pairwise_mergeSort {α : Type} {r : α → α → Prop} [DecidableRel r]
    (htrans : ∀ a b c, r a b → r b c → r a c) (htotal : ∀ a b, r a b ∨ r b a) (l : List α) :
    (l.mergeSort fun a b => r a b).Pairwise r := by
  have hpairwise : (l.mergeSort fun a b => r a b).Pairwise fun a b => decide (r a b) = true :=
    List.pairwise_mergeSort
      (fun a b c hab hbc => decide_eq_true (htrans a b c (of_decide_eq_true hab)
        (of_decide_eq_true hbc)))
      (fun a b => by simpa using htotal a b) l
  exact hpairwise.imp of_decide_eq_true

/-- Counts are sorted downwards, ties as they come. -/
theorem pairwise_largestFirst (counts : List (Nat × Track)) :
    (counts.mergeSort fun a b => b.1 ≤ a.1).Pairwise fun a b => b.1 ≤ a.1 :=
  pairwise_mergeSort (r := fun a b : Nat × Track => b.1 ≤ a.1)
    (fun _ _ _ hab hbc => Nat.le_trans hbc hab) (fun a b => Nat.le_total b.1 a.1) counts

/-- Some of the counted tracks are picked, each as it is. -/
theorem pickSparse_subperm (counts : List (Nat × Track)) :
    (pickSparse counts).Subperm (counts.map Prod.snd) := by
  unfold pickSparse
  refine (List.mergeSort_perm _ _).subperm.trans ?_
  have hsorted := List.mergeSort_perm counts fun a b => decide (b.1 ≤ a.1)
  exact (List.filter_sublist.map Prod.snd).subperm.trans (hsorted.map Prod.snd).subperm

/-- The picked tracks are in the order of their indices. -/
theorem pickSparse_pairwise (counts : List (Nat × Track)) :
    (pickSparse counts).Pairwise fun a b => a.index ≤ b.index := by
  unfold pickSparse
  exact pairwise_mergeSort (r := fun a b : Track => a.index ≤ b.index)
    (fun a b c => Nat.le_trans) (fun a b => Nat.le_total a.index b.index) _

/-! ## The search -/

variable {σ : Type} (tools : Toolbox σ) (setting : Setting)

/-- Some of the tracks that are answered for are counted, in their order. -/
theorem counted_sublist (entries : List (Track × Except Fault String)) :
    ((entries.filterMap (counted? setting)).map Prod.snd).Sublist (entries.map Prod.fst) := by
  induction entries with
  | nil => exact List.Sublist.refl _
  | cons entry rest ih =>
    rw [List.filterMap_cons, List.map_cons]
    cases hcounted : counted? setting entry with
    | none => exact ih.cons entry.1
    | some count =>
      rw [List.map_cons, counted?_track setting hcounted]
      exact ih.cons_cons entry.1

/-- **A search picks from its pool.** -/
theorem search_subperm (pool : List Track) (world : World σ) :
    (search tools setting pool world).1.selected.Subperm pool := by
  rw [search_eq]
  have hanswered := answered_sublist setting tools (batches setting.batchSize pool) world
  rw [flatten_batches] at hanswered
  exact (pickSparse_subperm _).trans ((counted_sublist setting _).trans hanswered).subperm

/-- **A search picks in the order of indices**, whatever the order of its pool. -/
theorem search_pairwise (pool : List Track) (world : World σ) :
    (search tools setting pool world).1.selected.Pairwise fun a b => a.index ≤ b.index :=
  pickSparse_pairwise _

end TrackSelect.ForeignAudio
