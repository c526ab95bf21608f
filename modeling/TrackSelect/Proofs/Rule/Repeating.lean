import TrackSelect.Proofs.Rule.Obeying
import TrackSelect.Proofs.Rule.Stopping

/-!
# Selecting again

A rule keeps tracks that obey it as they are (`Rule.apply_of_obeyed`), however it came that they
obey it: by data that agrees, or by none that could be compared. What a chain selects obeys all its
rules, and so does every part of it. So a selection that goes through its chain once more stays as
it is, and without a search in the chain so does every part of it (`Chain.select_selected`).
-/

namespace TrackSelect

namespace Extreme

/-- The best rank is one of the ranks, unless it was there before. -/
theorem mem_of_foldl_betterRank {extreme : Extreme} {ranks : List Int} {best : Int} :
    ∀ {sofar : Option Int}, ranks.foldl extreme.betterRank sofar = some best →
      sofar = some best ∨ best ∈ ranks := by
  induction ranks with
  | nil => exact fun h => Or.inl h
  | cons rank rest ih =>
    intro sofar h
    rcases ih h with hnow | hrest
    · cases sofar with
      | none =>
        have hrank : best = rank := by
          cases extreme <;> exact (Option.some.inj hnow).symm
        exact Or.inr (hrank ▸ List.mem_cons_self)
      | some old =>
        rw [betterRank_some, Option.some.injEq] at hnow
        split at hnow
        · exact Or.inr (hnow ▸ List.mem_cons_self)
        · exact Or.inl (congrArg some hnow)
    · exact Or.inr (List.mem_cons_of_mem rank hrest)

variable {α : Type} [PartlyOrdered α] [Ranked α]

/-- Candidates that have one rank, or no rank, are all kept. -/
theorem keep_of_rank {extreme : Extreme} {value : Track → Option α} {tracks : List Track}
    (rank : Option Int) (h : ∀ track ∈ tracks, (value track).bind rank? = rank) :
    extreme.keep value tracks = tracks := by
  rw [keep_eq]
  split
  · rfl
  · next best hbest =>
    refine List.filter_eq_self.2 fun track htrack => decide_eq_true ?_
    -- the best rank is that of some track, and so that of all
    rcases mem_of_foldl_betterRank hbest with hnone | hmem
    · cases hnone
    · obtain ⟨other, hother, hrank⟩ := List.mem_filterMap.1 hmem
      rw [h track htrack, ← h other hother, hrank]

end Extreme

namespace Rule

/-- No tracks obey every rule. -/
theorem obeyed_nil (rule : Rule) (kind : Kind) (counts : List (Nat × Track)) :
    rule.Obeyed kind counts [] := by
  cases rule with
  | resolution policy => cases policy <;> exact Or.inr fun _ h => absurd h List.not_mem_nil
  | duration bound => exact Or.inr fun _ h => absurd h List.not_mem_nil
  | language allowed => exact fun _ h => absurd h List.not_mem_nil
  | codec allowed => exact fun _ _ h => absurd h List.not_mem_nil
  | foreignAudio => exact fun _ h => absurd h List.not_mem_nil

/-- Tracks of one width, or of none, have one rank, or none. -/
theorem keep_width_of_obeyed {bound : Extreme} {kind : Kind} {counts : List (Nat × Track)}
    {tracks : List Track} (h : (resolution (.extreme bound)).Obeyed kind counts tracks) :
    bound.keep Track.width tracks = tracks := by
  rcases h with ⟨width, hwidth⟩ | hnone
  · refine Extreme.keep_of_rank (some (width : Int)) fun track htrack => ?_
    rw [hwidth track htrack]
    rfl
  · refine Extreme.keep_of_rank none fun track htrack => ?_
    rw [hnone track htrack]
    rfl

/-- So do tracks of equal lengths, and tracks without any that could be compared. -/
theorem keep_length_of_obeyed {bound : Extreme} {kind : Kind} {counts : List (Nat × Track)}
    {tracks : List Track} (h : (duration bound).Obeyed kind counts tracks) :
    bound.keep Track.length? tracks = tracks := by
  rcases h with hsame | hnan
  · cases tracks with
    | nil => exact Extreme.keep_of_rank none fun _ h => absurd h List.not_mem_nil
    | cons first rest =>
      obtain ⟨v, -, hv, -⟩ := hsame first List.mem_cons_self first List.mem_cons_self
      refine Extreme.keep_of_rank (rank? v) fun track htrack => ?_
      obtain ⟨w, v', hw, hv', heq⟩ := hsame track htrack first List.mem_cons_self
      cases hv.symm.trans hv'
      rw [hw, Option.bind_some]
      cases hrank : rank? v with
      | none => simp [Ranked.compare?_eq, hrank] at heq
      | some rank => exact (Ranked.compare?_eq_iff hrank).1 heq
  · refine Extreme.keep_of_rank none fun track htrack => ?_
    cases hlength : track.length? with
    | none => rfl
    | some v =>
      show v.rank? = none
      rw [Binary64.rank?, if_pos (hnan track htrack v hlength)]

/-- Tracks of a width, or without any, are kept by that width. -/
theorem keepWidth_of_obeyed {width : Nat} {kind : Kind} {counts : List (Nat × Track)}
    {tracks : List Track} (h : (resolution (.exact width)).Obeyed kind counts tracks) :
    keepWidth width tracks = tracks := by
  unfold keepWidth
  split
  · rfl
  · next hknown =>
    rcases h with hwidth | hnone
    · exact List.filter_eq_self.2 fun track htrack => decide_eq_true (hwidth track htrack)
    · refine absurd (List.all_eq_true.2 fun track htrack => ?_) hknown
      exact Option.isNone_iff_eq_none.2 (hnone track htrack)

/-- **A rule keeps tracks that obey it as they are.** -/
theorem apply_of_obeyed {rule : Rule} (hrule : rule ≠ .foreignAudio) {kind : Kind}
    {counts : List (Nat × Track)} {tracks : List Track} (h : rule.Obeyed kind counts tracks) :
    rule.apply kind tracks = .ok tracks := by
  cases rule with
  | resolution policy =>
    cases policy with
    | extreme bound => exact congrArg Except.ok (keep_width_of_obeyed h)
    | exact width => exact congrArg Except.ok (keepWidth_of_obeyed h)
  | duration bound => exact congrArg Except.ok (keep_length_of_obeyed h)
  | language allowed =>
    refine congrArg Except.ok (List.filter_eq_self.2 fun track htrack => ?_)
    obtain ⟨tag, hallowed, htag⟩ := h track htrack
    rw [htag]
    exact List.contains_iff_mem.2 hallowed
  | codec allowed =>
    by_cases hkind : kind = .video
    · rw [apply, if_pos hkind]
    · rw [apply, if_neg hkind]
      refine congrArg Except.ok (List.filter_eq_self.2 fun track htrack => ?_)
      exact List.contains_iff_mem.2 (h hkind track htrack)
  | foreignAudio => exact absurd rfl hrule

end Rule

namespace Chain

/-- So do rules that can be applied. -/
theorem narrow_of_obeyed {kind : Kind} {counts : List (Nat × Track)} {tracks : List Track} :
    ∀ {rules : List Rule}, .foreignAudio ∉ rules →
      (∀ rule ∈ rules, rule.Obeyed kind counts tracks) → narrow kind rules tracks = .ok tracks := by
  intro rules
  induction rules with
  | nil => exact fun _ _ => rfl
  | cons rule rules ih =>
    intro hrules hobeyed
    obtain ⟨hfirst, hrest⟩ := List.forall_mem_cons.1 hobeyed
    have hrule : rule ≠ .foreignAudio := fun heq => hrules (heq ▸ List.mem_cons_self)
    rw [narrow]
    split
    · rfl
    · rw [Rule.apply_of_obeyed hrule hfirst]
      exact ih (fun hmem => hrules (List.mem_cons_of_mem rule hmem)) hrest

/-- A selection that is not settled has gone through all rules, so there was no search. -/
theorem notMem_of_not_isSettled {kind : Kind} {rules : List Rule} :
    ∀ {tracks selected : List Track}, narrow kind rules tracks = .ok selected →
      ¬isSettled selected → .foreignAudio ∉ rules := by
  induction rules with
  | nil => exact fun _ _ => List.not_mem_nil
  | cons rule rules ih =>
    intro tracks selected h hopen
    rw [narrow] at h
    split at h
    · next hsettled =>
      cases h
      exact absurd hsettled hopen
    · split at h
      next kept hkept =>
        rintro (_ | ⟨_, hmem⟩)
        · cases hkept
        · exact ih h hopen hmem
      next => cases h

/-- Part of a selection, unless it is settled, obeys all rules of the chain. -/
theorem narrow_part_obeyed {kind : Kind} {rules : List Rule} {tracks selected part : List Track}
    (h : narrow kind rules tracks = .ok selected) (hpart : part.Sublist selected)
    (hopen : ¬isSettled part) : ∀ rule ∈ rules, rule.Obeyed kind [] part := by
  intro rule hrule
  match part, hpart, hopen with
  | [], _, _ => exact rule.obeyed_nil kind []
  | [_], _, hopen => exact absurd rfl hopen
  | _ :: _ :: _, hpart, _ =>
    have htwo : 2 ≤ selected.length := Nat.le_trans (by simp) hpart.length_le
    exact (narrow_obeyed [] h htwo rule hrule).subset hpart.subset

/-- **Selecting again changes nothing.** What a chain has selected, it selects again, with the same
tracks in the same order. Without a search in the chain it also selects every part of it in order,
as it is. -/
theorem select_selected {chain : Chain} {candidates selected : List Track}
    (h : chain.select candidates = .ok selected) :
    chain.select selected = .ok selected ∧
      (.foreignAudio ∉ chain.rules →
        ∀ part : List Track, part.Sublist selected → chain.select part = .ok part) := by
  have hpart : ∀ part : List Track, part.Sublist selected →
      (¬isSettled part → .foreignAudio ∉ chain.rules) → chain.select part = .ok part := by
    intro part hsub hrules
    by_cases hsettled : isSettled part
    · exact chain.select_of_isSettled hsettled
    · exact narrow_of_obeyed (hrules hsettled) (narrow_part_obeyed h hsub hsettled)
  exact ⟨hpart selected (List.Sublist.refl selected) fun hopen => notMem_of_not_isSettled h hopen,
    fun hrules part hsub => hpart part hsub fun _ => hrules⟩

/-- Three sound tracks of one length, given in seconds or in frames, among others whose length is
not a number or not known. -/
def unevenAudio : List Track :=
  [{ index := 1, kind := .audio, codec := "aac", duration := some (.ofNat 60) },
    { index := 2, kind := .audio, codec := "aac", duration := some .nan },
    { index := 3, kind := .audio, codec := "aac", frames := some 60 },
    { index := 4, kind := .audio, codec := "aac" },
    { index := 5, kind := .audio, codec := "aac", duration := some (.ofNat 60) }]

/-- The longest tracks stay, and so do two of them; the English track stays though the chain could
not go on to its search with more than one. -/
theorem select_selected_unevenAudio :
    (∃ selected, Chain.select ⟨.audio, [.duration .max, .codec ["aac"]]⟩ unevenAudio =
        .ok selected ∧
      selected.map Track.index = [1, 3, 5] ∧
      Chain.select ⟨.audio, [.duration .max, .codec ["aac"]]⟩ selected = .ok selected ∧
      Chain.select ⟨.audio, [.duration .max, .codec ["aac"]]⟩ selected.tail =
        .ok selected.tail) ∧
    Chain.select ⟨.audio, [.language ["eng"], .foreignAudio]⟩ mixedAudio =
        .ok (mixedAudio.take 1) ∧
      Chain.select ⟨.audio, [.language ["eng"], .foreignAudio]⟩ (mixedAudio.take 1) =
        .ok (mixedAudio.take 1) := by
  constructor
  · obtain ⟨selected, hselected, -⟩ : ∃ selected,
        Chain.select ⟨.audio, [.duration .max, .codec ["aac"]]⟩ unevenAudio = .ok selected ∧
          selected.Sublist unevenAudio := select_ok (by decide) unevenAudio
    have hindices : (Chain.select ⟨.audio, [.duration .max, .codec ["aac"]]⟩ unevenAudio).map
        (List.map Track.index) = .ok [1, 3, 5] := by
      decide +kernel
    rw [hselected] at hindices
    obtain ⟨hagain, hparts⟩ := select_selected hselected
    exact ⟨selected, hselected, Except.ok.inj hindices, hagain,
      hparts (by decide) selected.tail (List.tail_sublist selected)⟩
  · have hone : Chain.select ⟨.audio, [.language ["eng"], .foreignAudio]⟩ mixedAudio =
        .ok (mixedAudio.take 1) := by cbv
    exact ⟨hone, (select_selected hone).1⟩

end Chain

end TrackSelect
