import TrackSelect.Proofs.ForeignAudio.Silence

/-!
# Which tracks a search picks

Counts of up to 53 bits are compared as they are (`rounded_of_le`). Among such counts, the tracks
that are picked are exactly those with some cues, but fewer than a quarter of the largest number
there is, in the order of their indices (`pickSparse_quarter`).
-/

namespace TrackSelect.ForeignAudio

/-! ## Counts without spare bits -/

/-- **A count up to `2 ^ 53` is not rounded.** -/
theorem rounded_of_le {count : Nat} (h : count ≤ twoTo 53) : rounded count = count := by
  refine rounded_of_dvd ?_
  rcases Nat.lt_or_eq_of_le h with hlt | rfl
  · -- there are no more than 53 bits
    have hspare : spareBits count = 0 := by
      by_cases hcount : count = 0
      · rw [hcount]
        rfl
      · have hlog : count.log2 < 53 := (Nat.log2_lt hcount).2 hlt
        unfold spareBits precision
        omega
    rw [hspare]
    exact Nat.one_dvd count
  · -- there are 54, and the last of them is zero
    have hlog : (twoTo 53).log2 = 53 := Nat.log2_two_pow
    have hspare : spareBits (twoTo 53) = 1 := by
      rw [spareBits, hlog, precision]
    rw [hspare]
    exact Nat.pow_dvd_pow 2 (by decide)

/-- So a count is sparse if and only if it is below a quarter of the largest one. -/
theorem isSparse_iff {largest count : Nat} (hlargest : largest ≤ twoTo 53)
    (hcount : count ≤ twoTo 53) :
    isSparse largest count = true ↔ 0 < count ∧ 4 * count < largest := by
  rw [isSparse, rounded_of_le hlargest, rounded_of_le hcount, Bool.and_eq_true, decide_eq_true_eq,
    decide_eq_true_eq]

/-! ## The tracks that are picked -/

/-- There is only one largest count. -/
theorem IsLargest.eq_largestCount {counts : List (Nat × Track)} {largest : Nat}
    (h : IsLargest counts largest) : largest = largestCount counts := by
  obtain ⟨⟨track, hmem⟩, hle⟩ := h
  rcases largestCount_cases counts with ⟨rfl, -⟩ | ⟨⟨other, hother⟩, hall⟩
  · cases hmem
  · exact Nat.le_antisymm (hall _ hmem) (hle _ hother)

/-- **Exactly the sparse tracks are picked.** -/
theorem mem_pickSparse_iff {counts : List (Nat × Track)}
    (hexact : ∀ entry ∈ counts, entry.1 ≤ twoTo 53) {track : Track} :
    track ∈ pickSparse counts ↔ IsSparseIn counts track := by
  refine ⟨isSparseIn_of_mem_pickSparse, ?_⟩
  rintro ⟨count, largest, hmem, hlargest, hpos, hquarter⟩
  rw [(pickSparse_perm_filter counts).mem_iff]
  refine List.mem_map.2 ⟨(count, track), List.mem_filter.2 ⟨hmem, ?_⟩, rfl⟩
  obtain ⟨densest, hdensest⟩ := hlargest.1
  rw [← hlargest.eq_largestCount]
  exact (isSparse_iff (hexact _ hdensest) (hexact _ hmem)).2 ⟨hpos, hquarter⟩

/-- With distinct indices, the picked tracks are in strictly ascending order. -/
theorem pickSparse_ascending {counts : List (Nat × Track)}
    (hdistinct : ((counts.map Prod.snd).map Track.index).Nodup) :
    (pickSparse counts).Pairwise fun a b => a.index < b.index := by
  have hpicked : ((pickSparse counts).map Track.index).Nodup := by
    rw [((pickSparse_perm_filter counts).map Track.index).nodup_iff]
    exact hdistinct.sublist ((List.filter_sublist.map Prod.snd).map Track.index)
  exact (pickSparse_pairwise counts).imp₂ (fun a b hle hne => Nat.lt_of_le_of_ne hle hne)
    (List.pairwise_map.1 hpicked)

/-- With distinct indices, a track has one count. -/
theorem count_eq_of_mem {counts : List (Nat × Track)}
    (hdistinct : ((counts.map Prod.snd).map Track.index).Nodup) {m n : Nat} {track : Track}
    (hm : (m, track) ∈ counts) (hn : (n, track) ∈ counts) : m = n := by
  have hentries : (counts.map fun entry => entry.2.index).Nodup := by
    rwa [List.map_map] at hdistinct
  exact congrArg Prod.fst (List.inj_on_of_nodup_map hentries hm hn rfl)

/-- **The sparse tracks are those below a quarter.** Of tracks with distinct indices and counts up
to `2 ^ 53`, those are picked that have some cues, but fewer than a quarter of the largest number of
cues there is, each of them once and as it is, in strictly ascending order of their indices. So the
order of the counts does not matter, nor do any silent tracks among them, and no track with the
largest number of cues is picked. -/
theorem pickSparse_quarter {counts : List (Nat × Track)}
    (hdistinct : ((counts.map Prod.snd).map Track.index).Nodup)
    (hexact : ∀ entry ∈ counts, entry.1 ≤ twoTo 53) :
    (∀ track, track ∈ pickSparse counts ↔ IsSparseIn counts track) ∧
    ((pickSparse counts).Pairwise fun a b => a.index < b.index) ∧
    (∀ silent others : List (Nat × Track), (∀ entry ∈ silent, entry.1 = 0) →
      others.Perm (counts ++ silent) → pickSparse others = pickSparse counts) ∧
    ∀ entry ∈ counts, IsLargest counts entry.1 → entry.2 ∉ pickSparse counts := by
  refine ⟨fun track => mem_pickSparse_iff hexact, pickSparse_ascending hdistinct,
    fun silent others hsilent hothers => ?_, fun entry hentry hlargest hpicked => ?_⟩
  · -- no silent track is among those that count
    have hnone : silent.filter (0 < ·.1) = [] := by
      refine List.filter_eq_nil_iff.2 fun entry hentry => ?_
      simp [hsilent entry hentry]
    have haudible := hothers.filter fun entry => decide (0 < entry.1)
    rw [List.filter_append, hnone, List.append_nil] at haudible
    exact pickSparse_eq_of_filter_perm hdistinct haudible
  · obtain ⟨count, largest, hmem, hother, -, hquarter⟩ := (mem_pickSparse_iff hexact).1 hpicked
    -- its count would be the largest, and below a quarter of it
    have hcount : count = entry.1 := count_eq_of_mem hdistinct hmem hentry
    rw [hother.eq_largestCount, ← hlargest.eq_largestCount] at hquarter
    omega

/-- Four subtitles: the densest that counts are exact for, one at a quarter of it, one just below
that, and a silent one. -/
def wideCounts : List (Nat × Track) :=
  [(twoTo 51, { index := 5, kind := .subtitle, codec := "subrip" }),
    (twoTo 51 - 1, { index := 4, kind := .subtitle, codec := "subrip" }),
    (0, { index := 6, kind := .subtitle, codec := "ass" }),
    (twoTo 53, { index := 3, kind := .subtitle, codec := "ass" })]

/-- The one just below the quarter is picked, in whatever order they come, and the one at the
quarter is not, nor is the densest. -/
theorem pickSparse_quarter_wideCounts :
    ((wideCounts.map Prod.snd).map Track.index).Nodup ∧
    (∀ entry ∈ wideCounts, entry.1 ≤ twoTo 53) ∧
    { index := 4, kind := .subtitle, codec := "subrip" } ∈ pickSparse wideCounts.reverse ∧
    { index := 5, kind := .subtitle, codec := "subrip" } ∉ pickSparse wideCounts ∧
    { index := 3, kind := .subtitle, codec := "ass" } ∉ pickSparse wideCounts := by
  have hdistinct : ((wideCounts.map Prod.snd).map Track.index).Nodup := by decide
  have hexact : ∀ entry ∈ wideCounts, entry.1 ≤ twoTo 53 := by decide
  obtain ⟨hmem, -, hothers, hdensest⟩ := pickSparse_quarter hdistinct hexact
  have hlargest : IsLargest wideCounts (twoTo 53) :=
    ⟨⟨_, List.mem_of_getElem? (i := 3) rfl⟩, hexact⟩
  refine ⟨hdistinct, hexact, ?_, fun hpicked => ?_, ?_⟩
  · rw [hothers [] wideCounts.reverse nofun (by simp), hmem]
    exact ⟨_, _, List.mem_of_getElem? (i := 1) rfl, hlargest, by decide, by decide⟩
  · obtain ⟨count, largest, hcount, hother, -, hquarter⟩ := (hmem _).1 hpicked
    have hat : count = twoTo 51 :=
      count_eq_of_mem hdistinct hcount (List.mem_of_getElem? (i := 0) rfl)
    rw [hother.eq_largestCount, ← hlargest.eq_largestCount, hat] at hquarter
    exact absurd hquarter (by decide)
  · exact hdensest (twoTo 53, _) (List.mem_of_getElem? (i := 3) rfl) hlargest

end TrackSelect.ForeignAudio
