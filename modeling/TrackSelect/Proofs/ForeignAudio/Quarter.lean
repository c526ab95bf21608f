import TrackSelect.Proofs.Binary64.Rounding
import TrackSelect.Proofs.ForeignAudio.Sparse

/-!
# A quarter of the largest count

A search compares counts as numbers of 53 significant bits. Rounding to these keeps counts in
their order (`rounded_mono`), and it does not matter whether a count is taken four times before or
after (`rounded_four_mul`). So a sparse count is less than a quarter of the largest one as they
are, however many bits they have (`four_mul_lt_of_isSparse`), and that is what every track of a
pick is like (`isSparseIn_of_mem_search`).
-/

namespace TrackSelect

/-! ## Rounding a count -/

namespace ForeignAudio

open Binary64

/-- The bits of a count that are rounded away. -/
def spareBits (count : Nat) : Nat := count.log2 + 1 - precision

theorem rounded_eq (count : Nat) :
    rounded count = roundQuotient count (twoTo (spareBits count)) * twoTo (spareBits count) := rfl

/-- A count whose spare bits are zeros stays as it is. -/
theorem rounded_of_dvd {count : Nat} (h : twoTo (spareBits count) ∣ count) :
    rounded count = count := roundQuotient_mul_of_dvd (twoTo_pos _) h

/-- A count is rounded to the next power of two at most. -/
theorem rounded_le_twoTo (count : Nat) : rounded count ≤ twoTo (count.log2 + 1) := by
  have hspare : twoTo (spareBits count) ∣ twoTo (count.log2 + 1) :=
    Nat.pow_dvd_pow 2 (Nat.sub_le _ _)
  have hcount : count ≤ twoTo (count.log2 + 1) := Nat.le_of_lt Nat.lt_log2_self
  rw [rounded_eq, ← roundQuotient_mul_of_dvd (twoTo_pos _) hspare]
  exact Nat.mul_le_mul_right _ (roundQuotient_mono _ hcount)

/-- A count is rounded to the power of two below it at least. -/
theorem twoTo_le_rounded {count : Nat} (h : count ≠ 0) : twoTo count.log2 ≤ rounded count := by
  have hbits : spareBits count ≤ count.log2 := by
    unfold spareBits precision
    omega
  have hspare : twoTo (spareBits count) ∣ twoTo count.log2 := Nat.pow_dvd_pow 2 hbits
  have hcount : twoTo count.log2 ≤ count := Nat.log2_self_le h
  rw [rounded_eq, ← roundQuotient_mul_of_dvd (twoTo_pos _) hspare]
  exact Nat.mul_le_mul_right _ (roundQuotient_mono _ hcount)

/-- **Rounding keeps counts in their order.** -/
theorem rounded_mono {m n : Nat} (h : m ≤ n) : rounded m ≤ rounded n := by
  by_cases hm : m = 0
  · subst hm
    exact Nat.zero_le _
  · have hn : n ≠ 0 := by omega
    have hlog : m.log2 ≤ n.log2 := (Nat.le_log2 hn).2 (Nat.le_trans (Nat.log2_self_le hm) h)
    rcases Nat.lt_or_eq_of_le hlog with hlt | heq
    · -- a power of two stands between counts of different lengths
      calc rounded m ≤ twoTo (m.log2 + 1) := rounded_le_twoTo m
        _ ≤ twoTo n.log2 := Nat.pow_le_pow_right (by decide) hlt
        _ ≤ rounded n := twoTo_le_rounded hn
    · have hspare : spareBits m = spareBits n := by rw [spareBits, heq, spareBits]
      rw [rounded_eq, rounded_eq, hspare]
      exact Nat.mul_le_mul_right _ (roundQuotient_mono _ h)

/-- Four times a count is rounded to four times what the count is rounded to. -/
theorem rounded_four_mul (count : Nat) : rounded (4 * count) = 4 * rounded count := by
  by_cases hcount : count = 0
  · subst hcount
    rfl
  · have hlog : (4 * count).log2 = count.log2 + 2 := by
      have hfour : 4 * count = 2 * (2 * count) := by omega
      rw [hfour, Nat.log2_two_mul (by omega), Nat.log2_two_mul hcount]
    by_cases hlong : precision ≤ count.log2 + 1
    · -- the bits that are rounded away are two more
      have hspare : spareBits (4 * count) = spareBits count + 2 := by
        unfold spareBits
        omega
      have hunit : twoTo (spareBits count + 2) = twoTo (spareBits count) * 4 := Nat.pow_add 2 _ 2
      rw [rounded_eq, hspare, hunit, Nat.mul_comm 4 count,
        roundQuotient_mul_mul _ _ (by decide : 0 < 4), ← Nat.mul_assoc, ← rounded_eq, Nat.mul_comm]
    · -- no bit is rounded away before, and after that at most the two new ones, which are zeros
      have hspare : spareBits count = 0 := by
        unfold spareBits
        omega
      have hspare' : spareBits (4 * count) ≤ 2 := by
        unfold spareBits
        omega
      have hfour : twoTo (spareBits (4 * count)) ∣ twoTo 2 := Nat.pow_dvd_pow 2 hspare'
      have hcount : rounded count = count := by
        refine rounded_of_dvd ?_
        rw [hspare]
        exact Nat.one_dvd count
      rw [hcount]
      exact rounded_of_dvd (Nat.dvd_trans hfour (Nat.dvd_mul_right (twoTo 2) count))

/-- **A sparse count is below a quarter of the largest one.** -/
theorem four_mul_lt_of_isSparse {largest count : Nat} (h : isSparse largest count = true) :
    0 < count ∧ 4 * count < largest := by
  simp only [isSparse, Bool.and_eq_true, decide_eq_true_eq] at h
  refine ⟨h.1, Nat.lt_of_not_le fun hle => ?_⟩
  have hrounded : rounded largest ≤ 4 * rounded count := rounded_four_mul count ▸ rounded_mono hle
  omega

/-! ## The tracks that are picked -/

/-- The largest of some numbers of cues. -/
def IsLargest (counts : List (Nat × Track)) (largest : Nat) : Prop :=
  (∃ track, (largest, track) ∈ counts) ∧ ∀ entry ∈ counts, entry.1 ≤ largest

/-- A track with some cues, but less than a quarter of the largest number there is. -/
def IsSparseIn (counts : List (Nat × Track)) (track : Track) : Prop :=
  ∃ count largest, (count, track) ∈ counts ∧ IsLargest counts largest ∧
    0 < count ∧ 4 * count < largest

/-- Sorted downwards, the first number is the largest. -/
theorem isLargest_of_head? {counts : List (Nat × Track)} {entry : Nat × Track}
    (h : (counts.mergeSort fun a b => b.1 ≤ a.1).head? = some entry) :
    IsLargest counts entry.1 := by
  have hperm := List.mergeSort_perm counts fun a b => decide (b.1 ≤ a.1)
  have hsorted := pairwise_largestFirst counts
  obtain ⟨rest, hrest⟩ := List.head?_eq_some_iff.1 h
  rw [hrest] at hperm hsorted
  refine ⟨⟨entry.2, hperm.mem_iff.1 List.mem_cons_self⟩, fun other hother => ?_⟩
  rcases List.mem_cons.1 (hperm.mem_iff.2 hother) with rfl | hmem
  · exact Nat.le_refl _
  · exact (List.pairwise_cons.1 hsorted).1 other hmem

/-- Sparse tracks are sparse among what was counted. -/
theorem isSparseIn_of_mem_pickSparse {counts : List (Nat × Track)} {track : Track}
    (h : track ∈ pickSparse counts) : IsSparseIn counts track := by
  unfold pickSparse at h
  obtain ⟨entry, hentry, rfl⟩ := List.mem_map.1 (List.mem_mergeSort.1 h)
  obtain ⟨hmem, hsparse⟩ := List.mem_filter.1 hentry
  cases hhead : (counts.mergeSort fun a b => decide (b.1 ≤ a.1)).head? with
  | none =>
    rw [List.head?_eq_none_iff.1 hhead] at hmem
    exact absurd hmem List.not_mem_nil
  | some first =>
    rw [hhead] at hsparse
    exact ⟨entry.1, first.1, List.mem_mergeSort.1 hmem, isLargest_of_head? hhead,
      four_mul_lt_of_isSparse hsparse⟩

variable {σ : Type} (tools : Toolbox σ) (setting : Setting)

/-- The tracks of a pool that have numbers of cues, with these. -/
def counts (pool : List Track) (world : World σ) : List (Nat × Track) :=
  (answered setting tools world (batches setting.batchSize pool)).filterMap (counted? setting)

/-- **A search picks sparse tracks only.** -/
theorem isSparseIn_of_mem_search {pool : List Track} {world : World σ} {track : Track}
    (h : track ∈ (search tools setting pool world).1.selected) :
    IsSparseIn (counts tools setting pool world) track := by
  rw [search_eq] at h
  exact isSparseIn_of_mem_pickSparse h

end ForeignAudio

end TrackSelect
