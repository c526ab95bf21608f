import TrackSelect.Proofs.ForeignAudio.Quarter
import TrackSelect.Proofs.ForeignAudio.Reordering
import TrackSelect.Proofs.Rule.Pool
import TrackSelect.Proofs.Rule.Reordering
import TrackSelect.Proofs.SubRip.Samples

/-!
# What a selection obeys

`Rule.Obeyed` is what a rule asks of the tracks of a selection. A rule may keep tracks that it
knows nothing about, and rules may stand in any order, so it is not clear that the last rules
leave alone what the first ones have made sure of. They do, for two reasons:

* what a rule keeps obeys it (`Rule.apply_obeyed`, `ForeignAudio.search_obeyed`);
* some of the tracks that obey a rule obey it as well (`Rule.Obeyed.subset`), also where none of
  them has the data the rule is about.

A selection of two or more tracks was never settled, so every rule was applied
(`obeyed_of_two_le`).
-/

namespace TrackSelect

/-! ## Rules and tracks -/

namespace Rule

/-- What a rule asks of some tracks. The numbers of cues are those that a search has counted; where
there was no search there are none. -/
def Obeyed (kind : Kind) (counts : List (Nat × Track)) (tracks : List Track) : Rule → Prop
  | resolution (.extreme _) =>
    (∃ width, ∀ track ∈ tracks, track.width = some width) ∨ ∀ track ∈ tracks, track.width = none
  | resolution (.exact width) =>
    (∀ track ∈ tracks, track.width = some width) ∨ ∀ track ∈ tracks, track.width = none
  | duration _ =>
    (∀ a ∈ tracks, ∀ b ∈ tracks, ∃ v w, a.length? = some v ∧ b.length? = some w ∧
      compare? v w = some .eq) ∨
    ∀ track ∈ tracks, ∀ v, track.length? = some v → v.isNaN = true
  | language allowed => ∀ track ∈ tracks, ∃ tag ∈ allowed, track.language = some tag
  | codec allowed => kind ≠ .video → ∀ track ∈ tracks, track.codec ∈ allowed
  | foreignAudio => ∀ track ∈ tracks, ForeignAudio.IsSparseIn counts track

/-- Some of the tracks that obey a rule obey it too. -/
theorem Obeyed.subset {kind : Kind} {counts : List (Nat × Track)} {rule : Rule}
    {tracks kept : List Track} (h : rule.Obeyed kind counts tracks) (hsub : kept ⊆ tracks) :
    rule.Obeyed kind counts kept := by
  cases rule with
  | resolution policy =>
    cases policy with
    | extreme bound =>
      refine h.imp ?_ ?_
      · exact fun ⟨width, hwidth⟩ => ⟨width, fun track htrack => hwidth track (hsub htrack)⟩
      · exact fun hnone track htrack => hnone track (hsub htrack)
    | exact width =>
      refine h.imp ?_ ?_
      · exact fun hwidth track htrack => hwidth track (hsub htrack)
      · exact fun hnone track htrack => hnone track (hsub htrack)
  | duration bound =>
    refine h.imp ?_ ?_
    · exact fun hsame a ha b hb => hsame a (hsub ha) b (hsub hb)
    · exact fun hnone track htrack => hnone track (hsub htrack)
  | language allowed => exact fun track htrack => h track (hsub htrack)
  | codec allowed => exact fun hkind track htrack => h hkind track (hsub htrack)
  | foreignAudio => exact fun track htrack => h track (hsub htrack)

end Rule

/-! ## One rule -/

namespace Extreme

variable {α : Type} [PartlyOrdered α] [Ranked α]

/-- Once there is a best rank, there is one for good. -/
theorem foldl_betterRank_isSome (extreme : Extreme) (ranks : List Int) : ∀ sofar : Option Int,
    sofar.isSome → (ranks.foldl extreme.betterRank sofar).isSome := by
  induction ranks with
  | nil => exact fun sofar h => h
  | cons rank rest ih =>
    intro sofar h
    obtain ⟨best, rfl⟩ := Option.isSome_iff_exists.1 h
    refine ih _ ?_
    rw [betterRank_some]
    rfl

/-- Only of no ranks there is no best. -/
theorem eq_nil_of_bestRank?_eq_none {extreme : Extreme} {ranks : List Int}
    (h : extreme.bestRank? ranks = none) : ranks = [] := by
  cases ranks with
  | nil => rfl
  | cons rank rest =>
    have hsome := foldl_betterRank_isSome extreme rest (extreme.betterRank none rank)
      (by cases extreme <;> rfl)
    rw [bestRank?, List.foldl_cons] at h
    rw [h] at hsome
    exact absurd hsome (by decide)

/-- The candidates that are kept have one rank, or none of them has a rank. -/
theorem keep_rank (extreme : Extreme) (value : Track → Option α) (tracks : List Track) :
    (∃ best, ∀ track ∈ extreme.keep value tracks, (value track).bind rank? = some best) ∨
      ∀ track ∈ extreme.keep value tracks, (value track).bind rank? = none := by
  rw [keep_eq]
  split
  next hnone =>
    right
    intro track htrack
    have hranks := List.filterMap_eq_nil_iff.1 (eq_nil_of_bestRank?_eq_none hnone)
    exact hranks track htrack
  next best hbest =>
    left
    exact ⟨best, fun track htrack => of_decide_eq_true (List.mem_filter.1 htrack).2⟩

end Extreme

namespace Rule

/-- An extreme of widths leaves one width, or none. -/
theorem keep_width_obeyed (extreme : Extreme) (kind : Kind) (counts : List (Nat × Track))
    (tracks : List Track) :
    (resolution (.extreme extreme)).Obeyed kind counts (extreme.keep Track.width tracks) := by
  rcases extreme.keep_rank Track.width tracks with ⟨best, hbest⟩ | hnone
  · refine Or.inl ⟨best.toNat, fun track htrack => ?_⟩
    obtain ⟨width, hwidth, hrank⟩ := Option.bind_eq_some_iff.1 (hbest track htrack)
    have hbest : best = (width : Int) := (Option.some.inj hrank).symm
    rw [hwidth, hbest, Int.toNat_natCast]
  · refine Or.inr fun track htrack => ?_
    have hrank := hnone track htrack
    cases hwidth : track.width with
    | none => rfl
    | some width =>
      rw [hwidth] at hrank
      exact absurd hrank (by simp [rank?])

/-- An extreme of lengths leaves equal lengths, or none but NaNs. -/
theorem keep_length_obeyed (extreme : Extreme) (kind : Kind) (counts : List (Nat × Track))
    (tracks : List Track) :
    (duration extreme).Obeyed kind counts (extreme.keep Track.length? tracks) := by
  rcases extreme.keep_rank Track.length? tracks with ⟨best, hbest⟩ | hnone
  · refine Or.inl fun a ha b hb => ?_
    obtain ⟨v, hv, hvRank⟩ := Option.bind_eq_some_iff.1 (hbest a ha)
    obtain ⟨w, hw, hwRank⟩ := Option.bind_eq_some_iff.1 (hbest b hb)
    exact ⟨v, w, hv, hw, (Ranked.compare?_eq_iff hwRank).2 hvRank⟩
  · refine Or.inr fun track htrack v hv => ?_
    have hrank := hnone track htrack
    rw [hv, Option.bind_some] at hrank
    by_contra hnan
    rw [show rank? v = v.rank? from rfl, Binary64.rank?, if_neg hnan] at hrank
    cases hrank

/-- An exact width leaves tracks of that width, or tracks without any. -/
theorem keepWidth_obeyed (width : Nat) (kind : Kind) (counts : List (Nat × Track))
    (tracks : List Track) :
    (resolution (.exact width)).Obeyed kind counts (keepWidth width tracks) := by
  unfold keepWidth
  split
  next hnone =>
    refine Or.inr fun track htrack => ?_
    exact Option.isNone_iff_eq_none.1 (List.all_eq_true.1 hnone track htrack)
  next =>
    refine Or.inl fun track htrack => ?_
    exact of_decide_eq_true (List.mem_filter.1 htrack).2

/-- **What a rule keeps obeys it.** -/
theorem apply_obeyed {rule : Rule} {kind : Kind} {tracks kept : List Track}
    (h : rule.apply kind tracks = .ok kept) (counts : List (Nat × Track)) :
    rule.Obeyed kind counts kept := by
  cases rule with
  | resolution policy =>
    cases policy with
    | extreme bound =>
      cases h
      exact keep_width_obeyed bound kind counts tracks
    | exact width =>
      cases h
      exact keepWidth_obeyed width kind counts tracks
  | duration bound =>
    cases h
    exact keep_length_obeyed bound kind counts tracks
  | language allowed =>
    cases h
    intro track htrack
    obtain ⟨tag, htag, hallowed⟩ := (Option.any_eq_true _ _).1 (List.mem_filter.1 htrack).2
    exact ⟨tag, List.contains_iff_mem.1 hallowed, htag⟩
  | codec allowed =>
    intro hkind track htrack
    rw [apply, if_neg hkind] at h
    cases h
    exact List.contains_iff_mem.1 (List.mem_filter.1 htrack).2
  | foreignAudio => cases h

end Rule

/-- A settled selection has one track, so one of two tracks was not settled. -/
theorem not_isSettled_of_two_le {tracks : List Track} (h : 2 ≤ tracks.length) :
    ¬isSettled tracks := by
  rw [isSettled, beq_iff_eq]
  omega

/-! ## Chains and rule-sets -/

/-- A chain that leaves two or more tracks has applied all its rules, and the tracks obey each. -/
theorem Chain.narrow_obeyed {kind : Kind} {rules : List Rule} (counts : List (Nat × Track)) :
    ∀ {tracks selected : List Track}, narrow kind rules tracks = .ok selected →
      2 ≤ selected.length → ∀ rule ∈ rules, rule.Obeyed kind counts selected := by
  induction rules with
  | nil => exact fun _ _ rule hrule => absurd hrule List.not_mem_nil
  | cons first rules ih =>
    intro tracks selected h htwo rule hrule
    have htracks : ¬isSettled tracks :=
      not_isSettled_of_two_le (htwo.trans (narrow_sublist h).length_le)
    rw [narrow, if_neg htracks] at h
    split at h
    next kept hkept =>
      rcases List.mem_cons.1 hrule with rfl | hrule
      · -- the rules behind only take tracks away from those that obey the first
        exact (Rule.apply_obeyed hkept counts).subset (narrow_sublist h).subset
      · exact ih h htwo rule hrule
    next fault hfault => cases h

namespace RuleSet

variable {σ : Type} (tools : Toolbox σ) (setting : ForeignAudio.Setting)

/-- A rule-set that leaves two or more tracks has applied its first rule, and the tracks obey it. -/
theorem narrow_obeyed {rule : Rule} {rules : List Rule} {picks after : Picks}
    {world last : World σ} {pool picked : List Track} (hpool : ¬isSettled pool)
    (h : narrow tools setting picks world (rule :: rules) pool = (.ok (picked, after), last)) :
    rule.Obeyed .subtitle (ForeignAudio.counts tools setting pool world) picked := by
  by_cases hrule : rule = .foreignAudio
  · subst hrule
    rw [narrow_of_search tools setting picks world hpool] at h
    obtain ⟨picked', after', last', hnarrow, -, hsub, -⟩ := narrow_picks tools setting rules
      (picks.afterSearch pool (ForeignAudio.search tools setting pool world).1)
      (ForeignAudio.search tools setting pool world).2
      (ForeignAudio.search tools setting pool world).1.selected
    cases h.symm.trans hnarrow
    intro track htrack
    exact ForeignAudio.isSparseIn_of_mem_search tools setting (hsub.subset htrack)
  · obtain ⟨kept, hkept, -⟩ := Rule.apply_ok hrule .subtitle pool
    rw [narrow_of_apply tools setting picks world hrule hpool hkept] at h
    obtain ⟨picked', after', last', hnarrow, -, hsub, -⟩ :=
      narrow_picks tools setting rules picks world kept
    cases h.symm.trans hnarrow
    exact (Rule.apply_obeyed hkept _).subset hsub.subset

end RuleSet

/-- **A selection of two or more tracks obeys every rule**, whatever chain it was selected by, and
wherever the rule stands. For a rule-set, the rules in front of the rule come to a set of two or
more tracks, the rule is applied to these, and the numbers of cues that a search is held to are
those that it counted in this set. A chain by itself has no searches. -/
theorem obeyed_of_two_le :
    (∀ (chain : Chain) (candidates selected : List Track),
      chain.select candidates = .ok selected → 2 ≤ selected.length →
      ∀ rule ∈ chain.rules, rule.Obeyed chain.kind [] selected) ∧
    (∀ {σ : Type} (tools : Toolbox σ) (setting : ForeignAudio.Setting) (rules : List Rule)
      (picks after : Picks) (world last : World σ) (pool picked : List Track),
      RuleSet.narrow tools setting picks world rules pool = (.ok (picked, after), last) →
      2 ≤ picked.length →
      ∀ before rule behind, rules = before ++ rule :: behind →
        ∃ reached sofar now,
          RuleSet.narrow tools setting picks world before pool = (.ok (reached, sofar), now) ∧
          2 ≤ reached.length ∧
          RuleSet.narrow tools setting sofar now (rule :: behind) reached =
            (.ok (picked, after), last) ∧
          rule.Obeyed .subtitle (ForeignAudio.counts tools setting reached now) picked) := by
  refine ⟨fun chain candidates selected h htwo => Chain.narrow_obeyed [] h htwo, ?_⟩
  intro σ tools setting rules picks after world last pool picked h htwo before rule behind hrules
  subst hrules
  -- cut the run in two in front of the rule
  obtain ⟨reached, sofar, now, hreached, -⟩ :=
    RuleSet.narrow_picks tools setting before picks world pool
  have hrest := RuleSet.narrow_append tools setting before (rule :: behind) hreached
  rw [h] at hrest
  obtain ⟨picked', after', last', hnarrow, -, hsub, -⟩ :=
    RuleSet.narrow_picks tools setting (rule :: behind) sofar now reached
  cases hrest.trans hnarrow
  have htwo' : 2 ≤ reached.length := htwo.trans hsub.length_le
  exact ⟨reached, sofar, now, hreached, htwo', hrest.symm,
    RuleSet.narrow_obeyed tools setting (not_isSettled_of_two_le htwo') hrest.symm⟩

/-- Two sound tracks of one length, and one whose length is not known. -/
def lengthyAudio : List Track :=
  [{ index := 1, kind := .audio, codec := "aac", duration := some (.ofNat 60) },
    { index := 2, kind := .audio, codec := "aac" },
    { index := 3, kind := .audio, codec := "aac", frames := some 60 }]

/-- Three subtitles in English. -/
def englishSubtitles : List Track :=
  [{ index := 2, kind := .subtitle, codec := "subrip", language := some "eng" },
    { index := 4, kind := .subtitle, codec := "subrip", language := some "eng" },
    { index := 5, kind := .subtitle, codec := "subrip", language := some "eng" }]

/-- The first of them has five cues, the others have one. -/
def fiveAndOne : Answers where
  probe := .error .unusablePath
  transcript track := .ok (Sample.subRip (if track = 2 then 5 else 1))
  ocr track := .error (.extraction track "no picture")

/-- The others are sparse. -/
theorem search_fiveAndOne (world : World (List Inquiry)) :
    (ForeignAudio.search (.scripted fiveAndOne) ⟨"film.mkv", [], 2⟩ englishSubtitles
      world).1.selected = englishSubtitles.tail := by
  rw [ForeignAudio.search_answersBy (Toolbox.scripted_answersBy fiveAndOne "film.mkv")]
  simp only [englishSubtitles, List.map_cons, List.map_nil, List.filterMap_cons, List.filterMap_nil,
    ForeignAudio.counted?, ForeignAudio.extraction, Track.isImage, List.contains_nil,
    Bool.false_eq_true, if_false, Answers.extract, fiveAndOne, Nat.reduceEqDiff, if_true,
    ForeignAudio.cueCount, Except.bind, SubRip.count_subRip, List.tail_cons]
  cbv

/-- Two tracks of one length are selected, and two English ones with few cues are picked. -/
theorem obeyed_of_two_le_fiveAndOne :
    (∃ selected,
      Chain.select ⟨.audio, [.duration .max, .codec ["aac"]]⟩ lengthyAudio = .ok selected ∧
      selected.map Track.index = [1, 3] ∧
      ∀ rule ∈ [Rule.duration .max, .codec ["aac"]], rule.Obeyed .audio [] selected) ∧
    ∃ after last,
      RuleSet.narrow (.scripted fiveAndOne) ⟨"film.mkv", [], 2⟩ {} ⟨.fresh, []⟩
        [.language ["eng"], .foreignAudio, .codec ["subrip"]] englishSubtitles =
          (.ok (englishSubtitles.tail, after), last) ∧
      ∃ reached sofar now,
        RuleSet.narrow (.scripted fiveAndOne) ⟨"film.mkv", [], 2⟩ {} ⟨.fresh, []⟩
          [.language ["eng"]] englishSubtitles = (.ok (reached, sofar), now) ∧
        Rule.foreignAudio.Obeyed .subtitle
          (ForeignAudio.counts (.scripted fiveAndOne) ⟨"film.mkv", [], 2⟩ reached now)
          englishSubtitles.tail := by
  constructor
  · have hselect : Chain.select ⟨.audio, [.duration .max, .codec ["aac"]]⟩ lengthyAudio =
        .ok [lengthyAudio[0], lengthyAudio[2]] := by decide +kernel
    exact ⟨_, hselect, rfl, obeyed_of_two_le.1 _ _ _ hselect (by decide)⟩
  · have hlanguage : (Rule.language ["eng"]).apply .subtitle englishSubtitles =
        .ok englishSubtitles := by rfl
    have hcodec : (Rule.codec ["subrip"]).apply .subtitle englishSubtitles.tail =
        .ok englishSubtitles.tail := by rfl
    have hnarrow : ∃ after last,
        RuleSet.narrow (.scripted fiveAndOne) ⟨"film.mkv", [], 2⟩ {} ⟨.fresh, []⟩
          [.language ["eng"], .foreignAudio, .codec ["subrip"]] englishSubtitles =
            (.ok (englishSubtitles.tail, after), last) := by
      rw [RuleSet.narrow_of_apply _ _ _ _ (by decide) (by decide) hlanguage,
        RuleSet.narrow_of_search _ _ _ _ (by decide), search_fiveAndOne,
        RuleSet.narrow_of_apply _ _ _ _ (by decide) (by decide) hcodec]
      exact ⟨_, _, rfl⟩
    obtain ⟨after, last, hnarrow⟩ := hnarrow
    obtain ⟨reached, sofar, now, hreached, -, -, hobeyed⟩ :=
      obeyed_of_two_le.2 _ _ _ _ _ _ _ _ _ hnarrow (by decide) [.language ["eng"]] .foreignAudio
        [.codec ["subrip"]] rfl
    exact ⟨after, last, hnarrow, reached, sofar, now, hreached, hobeyed⟩

end TrackSelect
