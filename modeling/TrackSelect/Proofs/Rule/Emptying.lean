import TrackSelect.Proofs.Rule.Repeating

/-!
# What empties a selection

A rule about widths or lengths keeps what it knows nothing about, so data that is missing or not a
number costs no track its place. What is left are the rules that ask for something which all of the
candidates fail to have: a language tag, a codec, or a width where some width is known
(`Rule.Empties`). They are the only ones that can drop all candidates at once
(`Rule.apply_eq_nil_iff`), and a selection comes out empty exactly when one of them meets two or
more candidates and drops them all (`Chain.select_emptied`).
-/

namespace TrackSelect

/-! ## One rule -/

/-- The candidates with the best value there is are never none. -/
theorem Extreme.keep_ne_nil {α : Type} [PartlyOrdered α] [Ranked α] (extreme : Extreme)
    (value : Track → Option α) {tracks : List Track} (h : tracks ≠ []) :
    extreme.keep value tracks ≠ [] := by
  rw [keep_eq]
  split
  · exact h
  · next best hbest =>
    -- the best rank is that of some candidate, which is kept
    rcases mem_of_foldl_betterRank hbest with hnone | hmem
    · cases hnone
    · obtain ⟨track, htrack, hrank⟩ := List.mem_filterMap.1 hmem
      exact List.ne_nil_of_mem (List.mem_filter.2 ⟨htrack, decide_eq_true hrank⟩)

namespace Rule

/-- A rule that asks for something which none of some tracks has. -/
inductive Empties (kind : Kind) (tracks : List Track) : Rule → Prop where
  | language {allowed : List String}
      (lacking : ∀ track ∈ tracks, ∀ tag ∈ allowed, track.language ≠ some tag) :
      Empties kind tracks (.language allowed)
  /-- Of video tracks, all codecs will do. -/
  | codec {allowed : List String} (asks : kind ≠ .video)
      (lacking : ∀ track ∈ tracks, track.codec ∉ allowed) : Empties kind tracks (.codec allowed)
  /-- Without any width to go by, all widths will do. -/
  | width {width : Nat} (known : ∃ track ∈ tracks, track.width.isSome)
      (lacking : ∀ track ∈ tracks, track.width ≠ some width) :
      Empties kind tracks (.resolution (.exact width))

/-- A width is kept by none where some width is known, and all of these are others. -/
theorem keepWidth_eq_nil_iff {width : Nat} {tracks : List Track} (h : tracks ≠ []) :
    keepWidth width tracks = [] ↔
      (∃ track ∈ tracks, track.width.isSome) ∧ ∀ track ∈ tracks, track.width ≠ some width := by
  have hknown : ¬tracks.all (·.width.isNone) ↔ ∃ track ∈ tracks, track.width.isSome := by
    simp [Option.isSome_iff_ne_none]
  unfold keepWidth
  split
  next hnone => exact iff_of_false h fun hsome => hknown.2 hsome.1 hnone
  next hsome =>
    rw [List.filter_eq_nil_iff]
    simp only [decide_eq_true_eq]
    exact (and_iff_right (hknown.1 hsome)).symm

/-- **A rule drops all of some candidates** if it asks for something that none of them has. -/
theorem apply_eq_nil_iff {rule : Rule} {kind : Kind} {tracks : List Track} (h : tracks ≠ []) :
    rule.apply kind tracks = .ok [] ↔ rule.Empties kind tracks := by
  cases rule with
  | resolution policy =>
    cases policy with
    | extreme bound =>
      refine iff_of_false (fun happly => ?_) (by rintro ⟨⟩)
      exact bound.keep_ne_nil Track.width h (Except.ok.inj happly)
    | exact width =>
      rw [apply, Except.ok.injEq, keepWidth_eq_nil_iff h]
      constructor
      · exact fun hlacking => .width hlacking.1 hlacking.2
      · intro hempties
        cases hempties with
        | width known lacking => exact ⟨known, lacking⟩
  | duration bound =>
    refine iff_of_false (fun happly => ?_) (by rintro ⟨⟩)
    exact bound.keep_ne_nil Track.length? h (Except.ok.inj happly)
  | language allowed =>
    -- a track without a language tag is dropped like one with another tag
    have hnone : ∀ track : Track, ¬track.language.any allowed.contains ↔
        ∀ tag ∈ allowed, track.language ≠ some tag := by
      intro track
      cases track.language with
      | none => simp
      | some tag => simpa using List.forall_mem_ne.symm
    rw [apply, Except.ok.injEq, List.filter_eq_nil_iff]
    simp only [hnone]
    constructor
    · exact .language
    · intro hempties
      cases hempties with
      | language lacking => exact lacking
  | codec allowed =>
    by_cases hkind : kind = .video
    · rw [apply, if_pos hkind, Except.ok.injEq]
      refine iff_of_false h fun hempties => ?_
      cases hempties with
      | codec asks _ => exact asks hkind
    · rw [apply, if_neg hkind, Except.ok.injEq, List.filter_eq_nil_iff]
      simp only [List.contains_iff_mem]
      constructor
      · exact .codec hkind
      · intro hempties
        cases hempties with
        | codec _ lacking => exact lacking
  | foreignAudio => exact iff_of_false (by rintro ⟨⟩) (by rintro ⟨⟩)

/-- A rule that asks for nothing but an extreme, or for codecs where all of them will do. -/
inductive IsLenient (kind : Kind) : Rule → Prop where
  | width (bound : Extreme) : IsLenient kind (.resolution (.extreme bound))
  | length (bound : Extreme) : IsLenient kind (.duration bound)
  | codec (allowed : List String) (video : kind = .video) : IsLenient kind (.codec allowed)

theorem IsLenient.ne_foreignAudio {kind : Kind} {rule : Rule} (h : rule.IsLenient kind) :
    rule ≠ .foreignAudio := by
  cases h <;> exact nofun

theorem IsLenient.not_empties {kind : Kind} {rule : Rule} (h : rule.IsLenient kind)
    (tracks : List Track) : ¬rule.Empties kind tracks := by
  cases h with
  | width bound => rintro ⟨⟩
  | length bound => rintro ⟨⟩
  | codec allowed video =>
    intro hempties
    cases hempties with
    | codec asks _ => exact asks video

end Rule

namespace Chain

/-! ## Chains -/

/-- Rules behind others go on with what these come to. If that is settled, they leave it so. -/
theorem narrow_append {kind : Kind} (before behind : List Rule) : ∀ {tracks reached : List Track},
    narrow kind before tracks = .ok reached →
    narrow kind (before ++ behind) tracks = narrow kind behind reached := by
  induction before with
  | nil =>
    intro tracks reached h
    cases h
    rfl
  | cons rule before ih =>
    intro tracks reached h
    rw [narrow] at h
    rw [List.cons_append, narrow]
    split at h
    next hsettled =>
      cases h
      rw [if_pos hsettled]
      exact (select_of_isSettled ⟨kind, behind⟩ hsettled).symm
    next hopen =>
      rw [if_neg hopen]
      split at h
      next kept hkept => exact ih h
      next => cases h

/-- Rules that can be applied come to nothing from nothing. -/
theorem narrow_nil (kind : Kind) {rules : List Rule} (h : .foreignAudio ∉ rules) :
    narrow kind rules [] = .ok [] := by
  obtain ⟨kept, hkept, hsub⟩ := narrow_ok kind rules h []
  rw [hkept, List.sublist_nil.1 hsub]

/-- Where rules come to nothing, one of them was the first to: it had two or more candidates, and
kept none of them. -/
theorem exists_of_narrow_eq_nil {kind : Kind} {rules : List Rule} : ∀ {tracks : List Track},
    tracks ≠ [] → narrow kind rules tracks = .ok [] →
    ∃ before rule behind reached, rules = before ++ rule :: behind ∧
      narrow kind before tracks = .ok reached ∧ 2 ≤ reached.length ∧
      rule.apply kind reached = .ok [] := by
  induction rules with
  | nil => exact fun htracks h => absurd (Except.ok.inj h) htracks
  | cons rule rules ih =>
    intro tracks htracks h
    rw [narrow] at h
    split at h
    next => exact absurd (Except.ok.inj h) htracks
    next hopen =>
      split at h
      next kept hkept =>
        -- the first rule to drop all candidates is this one, or it is behind
        by_cases hnil : kept = []
        · subst hnil
          have htwo : 2 ≤ tracks.length := by
            have hpos := List.length_pos_iff.2 htracks
            rw [isSettled, beq_iff_eq] at hopen
            omega
          exact ⟨[], rule, rules, tracks, rfl, rfl, htwo, hkept⟩
        · obtain ⟨before, first, behind, reached, rfl, hreached, htwo, hfirst⟩ := ih hnil h
          refine ⟨rule :: before, first, behind, reached, rfl, ?_, htwo, hfirst⟩
          rw [narrow, if_neg hopen, hkept]
          exact hreached
      next => cases h

/-- **What empties a selection.** Without a search in the chain, candidates are all dropped exactly
when some rule was applied to two or more of them and asked for something that none of these has: a
language tag, a codec of tracks that are no video, or a width where some of them have one. So rules
about extremes, and codecs of video tracks, always leave a candidate, whatever is known about
widths and lengths. -/
theorem select_emptied {chain : Chain} {candidates : List Track} (hcandidates : candidates ≠ []) :
    (.foreignAudio ∉ chain.rules →
      (chain.select candidates = .ok [] ↔
        ∃ before rule behind reached, chain.rules = before ++ rule :: behind ∧
          narrow chain.kind before candidates = .ok reached ∧ 2 ≤ reached.length ∧
          rule.apply chain.kind reached = .ok [] ∧ rule.Empties chain.kind reached)) ∧
    ((∀ rule ∈ chain.rules, rule.IsLenient chain.kind) →
      ∃ selected, chain.select candidates = .ok selected ∧ selected ≠ []) := by
  have hempties : chain.select candidates = .ok [] →
      ∃ before rule behind reached, chain.rules = before ++ rule :: behind ∧
        narrow chain.kind before candidates = .ok reached ∧ 2 ≤ reached.length ∧
        rule.apply chain.kind reached = .ok [] ∧ rule.Empties chain.kind reached := by
    intro h
    obtain ⟨before, rule, behind, reached, hrules, hreached, htwo, hrule⟩ :=
      exists_of_narrow_eq_nil hcandidates h
    have hne : reached ≠ [] := List.ne_nil_of_length_pos (by omega)
    exact ⟨before, rule, behind, reached, hrules, hreached, htwo, hrule,
      (Rule.apply_eq_nil_iff hne).1 hrule⟩
  constructor
  · refine fun hrules => ⟨hempties, ?_⟩
    rintro ⟨before, rule, behind, reached, hsplit, hreached, htwo, hrule, -⟩
    have hbehind : .foreignAudio ∉ behind := by
      rw [hsplit] at hrules
      exact fun hmem => hrules (List.mem_append_right _ (List.mem_cons_of_mem _ hmem))
    have hopen := not_isSettled_of_two_le htwo
    -- the rules behind have nothing left to go on with
    rw [select, hsplit, narrow_append before _ hreached, narrow, if_neg hopen, hrule]
    exact narrow_nil chain.kind hbehind
  · intro hlenient
    have hrules : .foreignAudio ∉ chain.rules := fun hmem =>
      (hlenient _ hmem).ne_foreignAudio rfl
    obtain ⟨selected, hselected, -⟩ := select_ok hrules candidates
    refine ⟨selected, hselected, ?_⟩
    -- an empty selection would have to be the work of a rule that is not lenient
    rintro rfl
    obtain ⟨before, rule, behind, reached, hsplit, -, -, -, hrule⟩ := hempties hselected
    have hmem : rule ∈ chain.rules := by
      rw [hsplit]
      exact List.mem_append_right _ List.mem_cons_self
    exact (hlenient rule hmem).not_empties reached hrule

/-- Two pictures of the same length, only one of them of a known width, and a wide one whose length
is not a number. -/
def sketchyVideo : List Track :=
  [{ index := 0, kind := .video, codec := "h264", duration := some (.ofNat 60) },
    { index := 1, kind := .video, codec := "h264", width := some 1920, frames := some 60 },
    { index := 2, kind := .video, codec := "hevc", width := some 3840, duration := some .nan }]

/-- The wide picture is dropped for its length, and none of the long ones is known to be wide. As
long as only extremes are asked for, one of these stays. -/
theorem select_emptied_sketchyVideo :
    sketchyVideo ≠ [] ∧
      (Chain.mk .video [.duration .max, .resolution (.exact 3840)]).select sketchyVideo = .ok [] ∧
      (∃ before rule behind reached,
        [Rule.duration .max, .resolution (.exact 3840)] = before ++ rule :: behind ∧
        narrow .video before sketchyVideo = .ok reached ∧ 2 ≤ reached.length ∧
        rule.apply .video reached = .ok [] ∧ rule.Empties .video reached) ∧
      ∃ selected,
        (Chain.mk .video [.codec ["av1"], .duration .max, .resolution (.extreme .max)]).select
          sketchyVideo = .ok selected ∧ selected ≠ [] := by
  have hvideo : sketchyVideo ≠ [] := List.cons_ne_nil _ _
  have hnone : (Chain.mk .video [.duration .max, .resolution (.exact 3840)]).select
      sketchyVideo = .ok [] := by decide +kernel
  refine ⟨hvideo, hnone, ((select_emptied hvideo).1 (by decide)).1 hnone, ?_⟩
  refine (select_emptied hvideo).2 ?_
  simp only [List.forall_mem_cons]
  exact ⟨.codec _ rfl, .length _, .width _, nofun⟩

end Chain

end TrackSelect
