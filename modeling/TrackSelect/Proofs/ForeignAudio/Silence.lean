import TrackSelect.Proofs.ForeignAudio.Quarter

/-!
# Silent tracks

A track without any cue is never picked, and it takes no part in finding the largest number of
cues either. So a search might as well not count it (`pickSparse_filter`): what is picked depends on
the other tracks alone, and with distinct indices not on their order either
(`pickSparse_eq_of_filter_perm`).
-/

namespace TrackSelect.ForeignAudio

/-- The largest of some numbers of cues; of none at all it is zero. -/
def largestCount (counts : List (Nat × Track)) : Nat :=
  ((counts.mergeSort fun a b => b.1 ≤ a.1).head?.map Prod.fst).getD 0

/-- The largest count is the largest, or there is none. -/
theorem largestCount_cases (counts : List (Nat × Track)) :
    (counts = [] ∧ largestCount counts = 0) ∨ IsLargest counts (largestCount counts) := by
  unfold largestCount
  cases hhead : (counts.mergeSort fun a b => decide (b.1 ≤ a.1)).head? with
  | none =>
    have hperm := List.mergeSort_perm counts fun a b => decide (b.1 ≤ a.1)
    rw [List.head?_eq_none_iff.1 hhead] at hperm
    exact .inl ⟨hperm.symm.eq_nil, rfl⟩
  | some first => exact .inr (isLargest_of_head? hhead)

theorem le_largestCount {counts : List (Nat × Track)} {entry : Nat × Track} (h : entry ∈ counts) :
    entry.1 ≤ largestCount counts := by
  rcases largestCount_cases counts with ⟨rfl, -⟩ | hlargest
  · cases h
  · exact hlargest.2 entry h

/-- Only numbers of cues that are not zero decide which one is the largest. -/
theorem largestCount_le {counts others : List (Nat × Track)}
    (h : ∀ entry ∈ counts, 0 < entry.1 → entry ∈ others) :
    largestCount counts ≤ largestCount others := by
  rcases largestCount_cases counts with ⟨-, hzero⟩ | ⟨⟨track, hmem⟩, -⟩
  · rw [hzero]
    exact Nat.zero_le _
  · rcases Nat.eq_zero_or_pos (largestCount counts) with hzero | hpos
    · rw [hzero]
      exact Nat.zero_le _
    · exact le_largestCount (h _ hmem hpos)

/-- The picked tracks are the sparse ones, in some order. -/
theorem pickSparse_perm_filter (counts : List (Nat × Track)) :
    (pickSparse counts).Perm
      ((counts.filter fun entry => isSparse (largestCount counts) entry.1).map Prod.snd) := by
  have hsorted := List.mergeSort_perm counts fun a b => decide (b.1 ≤ a.1)
  exact (List.mergeSort_perm _ _).trans ((hsorted.filter _).map Prod.snd)

/-- With distinct indices, picks of the same tracks are the same: the indices leave only one order
for them. -/
theorem pickSparse_eq_of_perm {counts others : List (Nat × Track)}
    (hdistinct : ((counts.map Prod.snd).map Track.index).Nodup)
    (h : (pickSparse others).Perm (pickSparse counts)) : pickSparse others = pickSparse counts := by
  refine h.eq_of_pairwise (fun a b ha hb hab hba => ?_) (pickSparse_pairwise others)
    (pickSparse_pairwise counts)
  have hsubset := (pickSparse_subperm counts).subset
  exact List.inj_on_of_nodup_map hdistinct (hsubset (h.mem_iff.1 ha)) (hsubset hb)
    (Nat.le_antisymm hab hba)

/-- The sparse tracks are there without the silent ones. -/
theorem filter_isSparse (counts : List (Nat × Track)) (largest : Nat) :
    (counts.filter fun entry => isSparse largest entry.1) =
      (counts.filter (0 < ·.1)).filter fun entry => isSparse largest entry.1 := by
  rw [List.filter_filter]
  refine List.filter_congr fun entry _ => ?_
  simp only [isSparse, Bool.and_right_comm, Bool.and_self]

/-- **Only the tracks that are not silent count**, and their order does not. -/
theorem pickSparse_eq_of_filter_perm {counts others : List (Nat × Track)}
    (hdistinct : ((counts.map Prod.snd).map Track.index).Nodup)
    (h : (others.filter (0 < ·.1)).Perm (counts.filter (0 < ·.1))) :
    pickSparse others = pickSparse counts := by
  have hmem : ∀ entry : Nat × Track, 0 < entry.1 → (entry ∈ others ↔ entry ∈ counts) := by
    intro entry hpos
    simpa [List.mem_filter, hpos] using h.mem_iff (a := entry)
  have hlargest : largestCount others = largestCount counts :=
    Nat.le_antisymm (largestCount_le fun entry hin hpos => (hmem entry hpos).1 hin)
      (largestCount_le fun entry hin hpos => (hmem entry hpos).2 hin)
  -- the same tracks that are not silent are sparse for the same largest count
  have hsparse := (h.filter fun entry => isSparse (largestCount counts) entry.1).map Prod.snd
  rw [← filter_isSparse, ← filter_isSparse] at hsparse
  have hothers := pickSparse_perm_filter others
  rw [hlargest] at hothers
  exact pickSparse_eq_of_perm hdistinct
    ((hothers.trans hsparse).trans (pickSparse_perm_filter counts).symm)

/-- **Silent tracks may as well be missing.** -/
theorem pickSparse_filter {counts : List (Nat × Track)}
    (hdistinct : ((counts.map Prod.snd).map Track.index).Nodup) :
    pickSparse (counts.filter (0 < ·.1)) = pickSparse counts := by
  refine pickSparse_eq_of_filter_perm hdistinct (List.Perm.of_eq ?_)
  simp [List.filter_filter]

end TrackSelect.ForeignAudio
