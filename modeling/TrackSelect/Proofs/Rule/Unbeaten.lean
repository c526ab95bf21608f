import TrackSelect.Proofs.Rule.Reordering

/-!
# The candidates that none beats

Keeping an extreme goes over the candidates once for the best value, and once more for those that
are equal to it. Which of several best values the first pass comes to depends on the order, and
values that do not compare with themselves may stand anywhere in it. Neither shows in what is kept:
these are the candidates that no other candidate beats (`Extreme.keep_unbeaten`).

All that this needs of the values is that those which compare with themselves are totally preordered
(`Preordered`); values with ranks are one case of it.
-/

namespace TrackSelect

open Extreme (isDefined)

/-- Values that are totally preordered as far as they compare with themselves. -/
class Preordered (α : Type) [PartlyOrdered α] : Prop where
  compare?_isSome {a b : α} (ha : isDefined a = true) (hb : isDefined b = true) :
    (compare? a b).isSome = true
  compare?_swap {a b : α} (ha : isDefined a = true) (hb : isDefined b = true) :
    compare? b a = (compare? a b).map Ordering.swap
  isLE_trans {a b c : α} (ha : isDefined a = true) (hb : isDefined b = true)
    (hc : isDefined c = true) (hab : (compare? a b).any Ordering.isLE = true)
    (hbc : (compare? b c).any Ordering.isLE = true) : (compare? a c).any Ordering.isLE = true
  -- no other value passes for one of these
  isDefined_of_eq {a b : α} (hb : isDefined b = true) (hab : compare? a b = some .eq) :
    isDefined a = true

theorem Ranked.exists_rank {α : Type} [PartlyOrdered α] [Ranked α] {a : α}
    (h : isDefined a = true) : ∃ rank, rank? a = some rank := by
  rw [Extreme.isDefined_iff] at h
  exact Option.isSome_iff_exists.1 h

/-- Ranks are a preorder of the values that have one. -/
instance {α : Type} [PartlyOrdered α] [Ranked α] : Preordered α where
  compare?_isSome ha hb := by
    obtain ⟨i, hi⟩ := Ranked.exists_rank ha
    obtain ⟨j, hj⟩ := Ranked.exists_rank hb
    rw [Ranked.compare?_eq, hi, hj]
    rfl
  compare?_swap ha hb := by
    obtain ⟨i, hi⟩ := Ranked.exists_rank ha
    obtain ⟨j, hj⟩ := Ranked.exists_rank hb
    rw [Ranked.compare?_eq, Ranked.compare?_eq, hi, hj, Option.map_some, Int.compare_swap]
  isLE_trans ha hb hc hab hbc := by
    obtain ⟨i, hi⟩ := Ranked.exists_rank ha
    obtain ⟨j, hj⟩ := Ranked.exists_rank hb
    obtain ⟨k, hk⟩ := Ranked.exists_rank hc
    simp only [Ranked.compare?_eq, hi, hj, hk, Option.any_some, Int.isLE_compare] at *
    omega
  isDefined_of_eq hb hab := by
    obtain ⟨j, hj⟩ := Ranked.exists_rank hb
    rw [Extreme.isDefined_iff, (Ranked.compare?_eq_iff hj).1 hab]
    rfl

namespace Extreme

variable {α : Type} [PartlyOrdered α]

/-- A value beats another one when it is strictly further out. -/
def Beats : Extreme → α → α → Prop
  | max, a, b => compare? a b = some .gt
  | min, a, b => compare? a b = some .lt

instance (extreme : Extreme) (a b : α) : Decidable (extreme.Beats a b) :=
  match extreme with
  | max => inferInstanceAs (Decidable (compare? a b = some .gt))
  | min => inferInstanceAs (Decidable (compare? a b = some .lt))

/-- Whether a candidate has a value that compares with itself, and no candidate has one that beats
it. -/
def IsUnbeaten (extreme : Extreme) (value : Track → Option α) (tracks : List Track)
    (track : Track) : Prop :=
  ∃ v ∈ value track, isDefined v = true ∧
    ∀ other ∈ tracks, ∀ w ∈ value other, isDefined w = true → ¬ extreme.Beats w v

instance (extreme : Extreme) (value : Track → Option α) (tracks : List Track) :
    DecidablePred (extreme.IsUnbeaten value tracks) := fun track =>
  inferInstanceAs (Decidable (∃ v ∈ value track, isDefined v = true ∧
    ∀ other ∈ tracks, ∀ w ∈ value other, isDefined w = true → ¬ extreme.Beats w v))

theorem beats_iff {extreme : Extreme} {a b : α} :
    extreme.Beats a b ↔ compare? a b = some extreme.better := by
  cases extreme <;> rfl

theorem not_beats_of_eq {extreme : Extreme} {a b : α} (h : compare? a b = some .eq) :
    ¬ extreme.Beats a b := by
  rw [beats_iff, h]
  cases extreme <;> exact nofun

/-- The better of two values is the one that beats the other, or else the earlier one. -/
theorem best_some (extreme : Extreme) (b v : α) :
    extreme.best (some b) v = some (if extreme.Beats v b then v else b) := by
  simp only [best, beats_iff]
  split <;> rfl

/-- Without any value that compares with itself, all candidates are kept. -/
theorem keep_of_undefined (extreme : Extreme) {value : Track → Option α} {tracks : List Track}
    (h : ∀ track ∈ tracks, ∀ v ∈ value track, isDefined v = false) :
    extreme.keep value tracks = tracks := by
  have hnone : (tracks.filterMap value).filter isDefined = [] := by
    rw [List.filter_eq_nil_iff]
    intro v hv
    obtain ⟨track, htrack, hvalue⟩ := List.mem_filterMap.1 hv
    simp [h track htrack v hvalue]
  have htarget : extreme.target? (tracks.filterMap value) = none := by
    rw [target?, hnone]
    rfl
  unfold keep
  rw [htarget]

/-! ## Preordered values -/

variable [Preordered α] {extreme : Extreme} {a b c : α}

theorem compare?_self (ha : isDefined a = true) : compare? a a = some .eq := by
  obtain ⟨order, horder⟩ := Option.isSome_iff_exists.1 (Preordered.compare?_isSome ha ha)
  have hswap := Preordered.compare?_swap ha ha
  rw [horder, Option.map_some, Option.some.injEq] at hswap
  cases order with
  | eq => exact horder
  | lt | gt => cases hswap

/-- Towards either end, a value that does not beat another is on the near side of it. -/
theorem not_beats_iff (ha : isDefined a = true) (hb : isDefined b = true) :
    ¬ extreme.Beats a b ↔ match extreme with
      | max => (compare? a b).any Ordering.isLE = true
      | min => (compare? b a).any Ordering.isLE = true := by
  obtain ⟨order, horder⟩ := Option.isSome_iff_exists.1 (Preordered.compare?_isSome ha hb)
  rw [beats_iff, Preordered.compare?_swap ha hb, horder]
  cases extreme <;> cases order <;> decide

theorem not_beats_trans (ha : isDefined a = true) (hb : isDefined b = true)
    (hc : isDefined c = true) (hab : ¬ extreme.Beats a b) (hbc : ¬ extreme.Beats b c) :
    ¬ extreme.Beats a c := by
  rw [not_beats_iff ha hb] at hab
  rw [not_beats_iff hb hc] at hbc
  rw [not_beats_iff ha hc]
  cases extreme with
  | max => exact Preordered.isLE_trans ha hb hc hab hbc
  | min => exact Preordered.isLE_trans hc hb ha hbc hab

theorem not_beats_of_beats (ha : isDefined a = true) (hb : isDefined b = true)
    (h : extreme.Beats a b) : ¬ extreme.Beats b a := by
  rw [beats_iff] at h ⊢
  rw [Preordered.compare?_swap ha hb, h]
  cases extreme <;> decide

/-- Values are equal when neither beats the other. -/
theorem compare?_eq_of_not_beats (ha : isDefined a = true) (hb : isDefined b = true)
    (hab : ¬ extreme.Beats a b) (hba : ¬ extreme.Beats b a) : compare? a b = some .eq := by
  obtain ⟨order, horder⟩ := Option.isSome_iff_exists.1 (Preordered.compare?_isSome ha hb)
  rw [beats_iff, horder] at hab
  rw [beats_iff, Preordered.compare?_swap ha hb, horder] at hba
  revert hab hba
  rw [horder]
  cases extreme <;> cases order <;> decide

theorem compare?_eq_symm (ha : isDefined a = true) (hb : isDefined b = true)
    (h : compare? a b = some .eq) : compare? b a = some .eq := by
  rw [Preordered.compare?_swap ha hb, h]
  rfl

/-! ## The best value -/

/-- One more value: neither it nor the best one so far beats the better of them. -/
theorem best_not_beats (extreme : Extreme) (hb : isDefined b = true) {v : α}
    (hv : isDefined v = true) :
    ∃ next, extreme.best (some b) v = some next ∧ isDefined next = true ∧ (next = b ∨ next = v) ∧
      ¬ extreme.Beats b next ∧ ¬ extreme.Beats v next := by
  rw [best_some]
  by_cases hbeats : extreme.Beats v b
  · rw [if_pos hbeats]
    exact ⟨v, rfl, hv, .inr rfl, not_beats_of_beats hv hb hbeats,
      not_beats_of_eq (compare?_self hv)⟩
  · rw [if_neg hbeats]
    exact ⟨b, rfl, hb, .inl rfl, not_beats_of_eq (compare?_self hb), hbeats⟩

/-- All values: none of them, nor the best one before, beats what they come to. -/
theorem foldl_best_not_beats (extreme : Extreme) {values : List α} : ∀ {b : α},
    isDefined b = true →
    (∀ v ∈ values, isDefined v = true) →
    ∃ target ∈ b :: values, values.foldl extreme.best (some b) = some target ∧
      isDefined target = true ∧ ∀ v ∈ b :: values, ¬ extreme.Beats v target := by
  induction values with
  | nil =>
    intro b hb _
    refine ⟨b, List.mem_cons_self, rfl, hb, fun v hv => ?_⟩
    rw [List.mem_singleton.1 hv]
    exact not_beats_of_eq (compare?_self hb)
  | cons value rest ih =>
    intro b hb hvalues
    obtain ⟨hvalue, hrest⟩ := List.forall_mem_cons.1 hvalues
    obtain ⟨next, hbest, hnext, hor, hbNext, hvalueNext⟩ := extreme.best_not_beats hb hvalue
    obtain ⟨target, hmem, hfold, htarget, hnone⟩ := ih hnext hrest
    obtain ⟨hnextTarget, hrestTarget⟩ := List.forall_mem_cons.1 hnone
    refine ⟨target, ?_, by rw [List.foldl_cons, hbest, hfold], htarget, ?_⟩
    · -- the better of the first two values is one of them
      rcases List.mem_cons.1 hmem with rfl | hmem
      · rcases hor with rfl | rfl <;> simp
      · exact List.mem_cons_of_mem _ (List.mem_cons_of_mem _ hmem)
    · simp only [List.forall_mem_cons]
      exact ⟨not_beats_trans hb hnext htarget hbNext hnextTarget,
        not_beats_trans hvalue hnext htarget hvalueNext hnextTarget, hrestTarget⟩

/-- The best of some values is one of them, and none of them beats it. -/
theorem exists_target? (extreme : Extreme) {values : List α}
    (h : ∃ v ∈ values, isDefined v = true) :
    ∃ target ∈ values, extreme.target? values = some target ∧ isDefined target = true ∧
      ∀ v ∈ values, isDefined v = true → ¬ extreme.Beats v target := by
  unfold target?
  cases hfilter : values.filter isDefined with
  | nil =>
    obtain ⟨v, hv, hdefined⟩ := h
    exact absurd (List.filter_eq_nil_iff.1 hfilter v hv) (not_not_intro hdefined)
  | cons first rest =>
    have hmem : ∀ v, v ∈ first :: rest ↔ v ∈ values ∧ isDefined v = true := by
      intro v
      rw [← hfilter, List.mem_filter]
    have hfirst := ((hmem first).1 List.mem_cons_self).2
    have hrest : ∀ v ∈ rest, isDefined v = true :=
      fun v hv => ((hmem v).1 (List.mem_cons_of_mem _ hv)).2
    obtain ⟨target, htarget, hfold, hdefined, hnone⟩ :=
      extreme.foldl_best_not_beats hfirst hrest
    exact ⟨target, ((hmem target).1 htarget).1, hfold, hdefined,
      fun v hv hv' => hnone v ((hmem v).2 ⟨hv, hv'⟩)⟩

/-! ## The candidates that are kept -/

variable {value : Track → Option α} {tracks : List Track}

/-- Of values of which none beats the best one, those that are equal to it are beaten by none. -/
theorem compare?_target_iff {target : α} (hmem : ∃ track ∈ tracks, target ∈ value track)
    (htarget : isDefined target = true)
    (hnone : ∀ other ∈ tracks, ∀ w ∈ value other, isDefined w = true → ¬ extreme.Beats w target)
    {track : Track} (htrack : track ∈ tracks) {v : α} (hv : v ∈ value track) :
    compare? v target = some .eq ↔
      isDefined v = true ∧
        ∀ other ∈ tracks, ∀ w ∈ value other, isDefined w = true → ¬ extreme.Beats w v := by
  constructor
  · intro heq
    have hdefined := Preordered.isDefined_of_eq htarget heq
    refine ⟨hdefined, fun other hother w hw hw' => ?_⟩
    -- what beats a value beats its equals
    exact not_beats_trans hw' htarget hdefined (hnone other hother w hw hw')
      (not_beats_of_eq (compare?_eq_symm hdefined htarget heq))
  · rintro ⟨hdefined, hunbeaten⟩
    obtain ⟨best, hbest, hvalue⟩ := hmem
    exact compare?_eq_of_not_beats hdefined htarget (hnone track htrack v hv hdefined)
      (hunbeaten best hbest target hvalue htarget)

/-- Equal values are beaten by the same ones. -/
theorem IsUnbeaten.of_eq {a b : Track} (ha : extreme.IsUnbeaten value tracks a) {v w : α}
    (hv : v ∈ value a) (hw : w ∈ value b) (heq : compare? w v = some .eq) :
    extreme.IsUnbeaten value tracks b := by
  obtain ⟨v', hv', hdefined, hnone⟩ := ha
  obtain rfl := Option.mem_unique hv hv'
  have hwDefined := Preordered.isDefined_of_eq hdefined heq
  refine ⟨w, hw, hwDefined, fun other hother u hu hu' => ?_⟩
  exact not_beats_trans hu' hdefined hwDefined (hnone other hother u hu hu')
    (not_beats_of_eq (compare?_eq_symm hwDefined hdefined heq))

/-- With such a value, the candidates that none beats are kept, and there is one. -/
theorem keep_of_defined (extreme : Extreme)
    (h : ∃ track ∈ tracks, ∃ v ∈ value track, isDefined v = true) :
    extreme.keep value tracks = tracks.filter (extreme.IsUnbeaten value tracks) ∧
      extreme.keep value tracks ≠ [] := by
  obtain ⟨track, htrack, v, hv, hdefined⟩ := h
  have hvalue : ∃ v ∈ tracks.filterMap value, isDefined v = true :=
    ⟨v, List.mem_filterMap.2 ⟨track, htrack, hv⟩, hdefined⟩
  obtain ⟨target, hmem, htarget, htargetDefined, hnone⟩ := extreme.exists_target? hvalue
  have hmem' : ∃ track ∈ tracks, target ∈ value track := List.mem_filterMap.1 hmem
  have hnone' : ∀ other ∈ tracks, ∀ w ∈ value other, isDefined w = true →
      ¬ extreme.Beats w target :=
    fun other hother w hw => hnone w (List.mem_filterMap.2 ⟨other, hother, hw⟩)
  unfold keep
  rw [htarget]
  constructor
  · refine List.filter_congr fun other hother => ?_
    cases hother' : value other with
    | none => simp [IsUnbeaten, hother']
    | some w =>
      have hiff := compare?_target_iff hmem' htargetDefined hnone' hother hother'
      simp [IsUnbeaten, hother', hiff]
  · obtain ⟨best, hbest, hbestValue⟩ := hmem'
    refine List.ne_nil_of_mem (List.mem_filter.2 ⟨hbest, ?_⟩)
    rw [Option.mem_def.1 hbestValue]
    exact decide_eq_true (compare?_self htargetDefined)

/-- **What keeping an extreme keeps.** Where no candidate has a value that compares with itself, all
candidates are kept. Where one has, some are kept, in their order: the candidates with such a value
that no candidate's such value beats, and with any of them all that are equal to it. -/
theorem keep_unbeaten (extreme : Extreme) (value : Track → Option α) (tracks : List Track) :
    ((∀ track ∈ tracks, ∀ v ∈ value track, isDefined v = false) →
      extreme.keep value tracks = tracks) ∧
    ((∃ track ∈ tracks, ∃ v ∈ value track, isDefined v = true) →
      extreme.keep value tracks ≠ [] ∧
      extreme.keep value tracks = tracks.filter (extreme.IsUnbeaten value tracks) ∧
      ∀ a ∈ extreme.keep value tracks, ∀ b ∈ tracks, ∀ v ∈ value a, ∀ w ∈ value b,
        compare? w v = some .eq → b ∈ extreme.keep value tracks) := by
  refine ⟨keep_of_undefined extreme, fun hdefined => ?_⟩
  obtain ⟨hkeep, hne⟩ := keep_of_defined extreme hdefined
  refine ⟨hne, hkeep, fun a ha b hb v hv w hw heq => ?_⟩
  rw [hkeep, List.mem_filter, decide_eq_true_eq] at ha ⊢
  exact ⟨hb, ha.2.of_eq hv hw heq⟩

/-- Tracks of unknown widths. Two have no length but 0, with either sign, and two one that is not a
number. -/
def zeroLengths : List Track :=
  [{ index := 0, kind := .audio, codec := "aac", duration := some .nan },
    { index := 1, kind := .audio, codec := "aac", duration := some (.ofMagnitude true 0) },
    { index := 2, kind := .audio, codec := "aac" },
    { index := 3, kind := .audio, codec := "aac", frames := some 7 },
    { index := 4, kind := .audio, codec := "aac", frames := some 0 },
    { index := 5, kind := .audio, codec := "aac", duration := some .nan }]

/-- Both zeros are kept for the least length, and all tracks for the largest width. -/
theorem keep_unbeaten_zeroLengths :
    ((∃ track ∈ zeroLengths, ∃ v ∈ track.length?, isDefined v = true) ∧
      (min.keep Track.length? zeroLengths).map Track.index = [1, 4]) ∧
    (∀ track ∈ zeroLengths, ∀ v ∈ track.width, isDefined v = false) ∧
      max.keep Track.width zeroLengths = zeroLengths := by
  have hlength : ∃ track ∈ zeroLengths, ∃ v ∈ track.length?, isDefined v = true := by
    decide +kernel
  have hwidth : ∀ track ∈ zeroLengths, ∀ v ∈ track.width, isDefined v = false := by decide
  refine ⟨⟨hlength, ?_⟩, hwidth, (keep_unbeaten max Track.width zeroLengths).1 hwidth⟩
  rw [((keep_unbeaten min Track.length? zeroLengths).2 hlength).2.1]
  decide +kernel

end Extreme

end TrackSelect
