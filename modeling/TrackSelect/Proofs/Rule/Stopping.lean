import TrackSelect.Proofs.Rule.Narrowing

/-!
# Stopping early

A selection stops at a single candidate (`Chain.select`); plain evaluation goes on to the last
rule (`Chain.applyAll`). Rules are no plain filters, since an extreme depends on the candidates
that are there, but both narrow the same candidates by the same rules up to the stop, and what
plain evaluation can still do to one candidate is to drop it. So stopping early rescues one
candidate at most, and changes nothing else (`Chain.select_applyAll`).
-/

namespace TrackSelect.Chain

/-! ## Plain evaluation -/

/-- Plain evaluation without a search comes to an end, and only narrows. -/
theorem applyAll_ok (kind : Kind) (rules : List Rule) (h : .foreignAudio ∉ rules) :
    ∀ tracks, ∃ all, applyAll kind rules tracks = .ok all ∧ all.Sublist tracks := by
  induction rules with
  | nil => exact fun tracks => ⟨tracks, rfl, List.Sublist.refl tracks⟩
  | cons rule rules ih =>
    intro tracks
    have hrule : rule ≠ .foreignAudio := fun heq => h (heq ▸ List.mem_cons_self)
    obtain ⟨kept, hkept, hsub⟩ := Rule.apply_ok hrule kind tracks
    obtain ⟨all, hall, hallSub⟩ := ih (fun hmem => h (List.mem_cons_of_mem rule hmem)) kept
    refine ⟨all, ?_, hallSub.trans hsub⟩
    rw [applyAll, hkept]
    exact hall

/-- Plain evaluation of a single candidate keeps it or drops it. -/
theorem applyAll_of_isSettled (kind : Kind) {rules : List Rule} (h : .foreignAudio ∉ rules)
    {tracks : List Track} (hsettled : isSettled tracks = true) :
    ∃ all, applyAll kind rules tracks = .ok all ∧ (tracks = all ∨ all = []) := by
  obtain ⟨all, hall, hsub⟩ := applyAll_ok kind rules h tracks
  refine ⟨all, hall, ?_⟩
  obtain ⟨track, rfl⟩ := List.length_eq_one_iff.1 (beq_iff_eq.1 hsettled)
  cases hsub with
  | cons _ hnil => exact Or.inr (List.sublist_nil.1 hnil)
  | cons_cons _ hnil => exact Or.inl (by rw [List.sublist_nil.1 hnil])

/-! ## The two side by side -/

/-- Rules with an early stop, and all of them: the induction follows both until the first stops,
and whatever happens from there on happens to one candidate. -/
theorem narrow_applyAll (kind : Kind) (rules : List Rule) (h : .foreignAudio ∉ rules) :
    ∀ tracks, ∃ all selected, applyAll kind rules tracks = .ok all ∧
      narrow kind rules tracks = .ok selected ∧
      (selected = all ∨ all = [] ∧ selected.length = 1) := by
  induction rules with
  | nil => exact fun tracks => ⟨tracks, tracks, rfl, rfl, Or.inl rfl⟩
  | cons rule rules ih =>
    intro tracks
    by_cases hsettled : isSettled tracks
    · obtain ⟨all, hall, hone⟩ := applyAll_of_isSettled kind h hsettled
      refine ⟨all, tracks, hall, by simp [narrow, hsettled], ?_⟩
      exact hone.imp_right fun hnil => ⟨hnil, beq_iff_eq.1 hsettled⟩
    · have hrule : rule ≠ .foreignAudio := fun heq => h (heq ▸ List.mem_cons_self)
      obtain ⟨kept, hkept, -⟩ := Rule.apply_ok hrule kind tracks
      obtain ⟨all, selected, hall, hselected, hone⟩ :=
        ih (fun hmem => h (List.mem_cons_of_mem rule hmem)) kept
      refine ⟨all, selected, ?_, ?_, hone⟩
      · rw [applyAll, hkept]
        exact hall
      · simpa [narrow, hsettled, hkept] using hselected

/-- **Stopping early rescues one candidate at most.** Without a search in the chain, both a
selection and plain evaluation of all rules come to an end. They come to the same candidates,
unless plain evaluation drops them all and the selection is a single one. Either way what plain
evaluation keeps is part of the selection, and the selection part of the candidates, all in their
order. -/
theorem select_applyAll {chain : Chain} (h : .foreignAudio ∉ chain.rules)
    (candidates : List Track) :
    ∃ all selected, applyAll chain.kind chain.rules candidates = .ok all ∧
      chain.select candidates = .ok selected ∧
      (selected = all ∨ all = [] ∧ selected.length = 1) ∧
      all.Sublist selected ∧ selected.Sublist candidates := by
  obtain ⟨all, selected, hall, hselected, hone⟩ :=
    narrow_applyAll chain.kind chain.rules h candidates
  obtain ⟨kept, hkept, hsub⟩ := select_ok h candidates
  cases hselected.symm.trans hkept
  refine ⟨all, selected, hall, hselected, hone, ?_, hsub⟩
  rcases hone with rfl | ⟨rfl, -⟩
  · exact List.Sublist.refl selected
  · exact List.nil_sublist selected

/-- A chain for English audio of one codec. -/
def englishFlac : Chain := ⟨.audio, [.language ["eng"], .codec ["flac"]]⟩

/-- Two tracks, only one of them English, and that one of another codec. -/
def mixedAudio : List Track :=
  [{ index := 1, kind := .audio, codec := "ac3", language := some "eng" },
    { index := 2, kind := .audio, codec := "flac", language := some "jpn" }]

/-- The English track is settled before its codec is looked at. -/
theorem select_applyAll_mixedAudio :
    .foreignAudio ∉ englishFlac.rules ∧ ∃ all selected,
      applyAll englishFlac.kind englishFlac.rules mixedAudio = .ok all ∧
      englishFlac.select mixedAudio = .ok selected ∧
      all = [] ∧ selected.map Track.index = [1] := by
  have h : .foreignAudio ∉ englishFlac.rules := by decide
  refine ⟨h, ?_⟩
  obtain ⟨all, selected, hall, hselected, -⟩ := select_applyAll h mixedAudio
  refine ⟨all, selected, hall, hselected, ?_, ?_⟩
  · exact Except.ok.inj (hall.symm.trans (by cbv))
  · have hone : englishFlac.select mixedAudio = .ok (mixedAudio.take 1) := by cbv
    rw [Except.ok.inj (hselected.symm.trans hone)]
    rfl

end TrackSelect.Chain
