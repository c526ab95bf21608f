import Mathlib.Data.List.Perm.Basic
import TrackSelect.Proofs.Rule.Narrowing

/-!
# Rules and the order of candidates

What a rule keeps does not depend on the order of the candidates, only the order of what it keeps
does (`Rule.apply_perm`, `Chain.select_perm`). For the rules about an extreme this needs values
that compare by ranks (`Ranked`): widths have one each, and of binary64 numbers all but a NaN.
The first of several best values is not the same in another order, but its rank is
(`Extreme.keep_eq`).
-/

namespace TrackSelect

/-- Values that compare by their ranks, as far as they have one. -/
class Ranked (α : Type) [PartlyOrdered α] where
  rank? : α → Option Int
  compare?_eq : ∀ a b : α, compare? a b =
    match rank? a, rank? b with
    | some i, some j => some (compare i j)
    | _, _ => none

/-- A natural number is its own rank. -/
instance : Ranked Nat where
  rank? n := some n
  compare?_eq a b := by
    show some (compare a b) = some (compare (a : Int) (b : Int))
    simp only [compare, compareOfLessAndEq, Int.ofNat_lt, Int.ofNat_inj]

/-- The rank of a binary64 number is its place among all of them. -/
instance : Ranked Binary64 where
  rank? := Binary64.rank?
  compare?_eq _ _ := rfl

export Ranked (rank?)

/-- Values are equal to one that has a rank when they have its rank. -/
theorem Ranked.compare?_eq_iff {α : Type} [PartlyOrdered α] [Ranked α] {a b : α} {rank : Int}
    (h : rank? b = some rank) : compare? a b = some .eq ↔ rank? a = some rank := by
  rw [Ranked.compare?_eq, h]
  cases rank? a with
  | none => simp
  | some i => rw [Option.some.injEq, Option.some.injEq, Int.compare_eq_eq]

namespace Extreme

/-! ## The best rank -/

/-- The better of the best rank so far and one more. -/
def betterRank (extreme : Extreme) (sofar : Option Int) (rank : Int) : Option Int :=
  match sofar, extreme with
  | none, _ => some rank
  | some best, max => some (Max.max best rank)
  | some best, min => some (Min.min best rank)

/-- The best of some ranks. -/
def bestRank? (extreme : Extreme) (ranks : List Int) : Option Int :=
  ranks.foldl extreme.betterRank none

/-- Two ranks can be taken in either order. -/
theorem betterRank_comm (extreme : Extreme) (sofar : Option Int) (i j : Int) :
    extreme.betterRank (extreme.betterRank sofar i) j =
      extreme.betterRank (extreme.betterRank sofar j) i := by
  cases sofar with
  | none => cases extreme <;> simp only [betterRank, Option.some.injEq] <;> omega
  | some best => cases extreme <;> simp only [betterRank, Option.some.injEq] <;> omega

/-- A rank takes the place of the best one when it is strictly better. -/
theorem betterRank_some (extreme : Extreme) (best rank : Int) :
    extreme.betterRank (some best) rank =
      some (if compare rank best = extreme.better then rank else best) := by
  by_cases h : compare rank best = extreme.better
  · rw [if_pos h]
    cases extreme with
    | max =>
      have hlt : best < rank := Int.compare_eq_gt.1 h
      rw [betterRank, Int.max_eq_right (Int.le_of_lt hlt)]
    | min =>
      have hlt : rank < best := Int.compare_eq_lt.1 h
      rw [betterRank, Int.min_eq_right (Int.le_of_lt hlt)]
  · rw [if_neg h]
    cases extreme with
    | max =>
      have hle : rank ≤ best := Int.not_lt.1 fun hlt => h (Int.compare_eq_gt.2 hlt)
      rw [betterRank, Int.max_eq_left hle]
    | min =>
      have hle : best ≤ rank := Int.not_lt.1 fun hlt => h (Int.compare_eq_lt.2 hlt)
      rw [betterRank, Int.min_eq_left hle]

/-- The best rank does not depend on the order of the ranks. -/
theorem bestRank?_perm (extreme : Extreme) {ranks₁ ranks₂ : List Int} (h : ranks₁.Perm ranks₂) :
    extreme.bestRank? ranks₁ = extreme.bestRank? ranks₂ :=
  h.foldl_eq' (fun i _ j _ sofar => extreme.betterRank_comm sofar i j) none

/-! ## The best value -/

variable {α : Type} [PartlyOrdered α] [Ranked α]

/-- A value compares with itself when it has a rank. -/
theorem isDefined_iff (value : α) : isDefined value = (rank? value).isSome := by
  rw [isDefined, Ranked.compare?_eq]
  cases rank? value <;> rfl

/-- The better of two values has the better of their ranks. -/
theorem best_rank (extreme : Extreme) {sofar : Option α} {value : α} {rank : Int}
    (hsofar : ∀ b, sofar = some b → (rank? b).isSome) (hvalue : rank? value = some rank) :
    (extreme.best sofar value).bind rank? = extreme.betterRank (sofar.bind rank?) rank ∧
      ∀ b, extreme.best sofar value = some b → (rank? b).isSome := by
  cases sofar with
  | none =>
    refine ⟨hvalue, fun b hb => ?_⟩
    rw [← Option.some.inj hb, hvalue]
    rfl
  | some b =>
    obtain ⟨i, hi⟩ := Option.isSome_iff_exists.1 (hsofar b rfl)
    have hcompare : compare? value b = some (compare rank i) := by
      rw [Ranked.compare?_eq, hvalue, hi]
    rw [Option.bind_some, hi, betterRank_some]
    simp only [best, hcompare, Option.some.injEq]
    -- both sides take the value or leave it by the same comparison
    by_cases hbetter : compare rank i = extreme.better
    · rw [if_pos hbetter, if_pos hbetter]
      refine ⟨hvalue, fun c hc => ?_⟩
      rw [← Option.some.inj hc, hvalue]
      rfl
    · rw [if_neg hbetter, if_neg hbetter]
      refine ⟨hi, fun c hc => ?_⟩
      rw [← Option.some.inj hc, hi]
      rfl

/-- The best value so far always has a rank, and it is the best rank so far. -/
theorem foldl_best_rank (extreme : Extreme) (values : List α) : ∀ sofar : Option α,
    (∀ b, sofar = some b → (rank? b).isSome) →
    ((values.filter isDefined).foldl extreme.best sofar).bind rank? =
        (values.filterMap rank?).foldl extreme.betterRank (sofar.bind rank?) ∧
      ∀ b, (values.filter isDefined).foldl extreme.best sofar = some b → (rank? b).isSome := by
  induction values with
  | nil => exact fun sofar hsofar => ⟨rfl, hsofar⟩
  | cons value rest ih =>
    intro sofar hsofar
    cases hrank : rank? value with
    | none =>
      -- a value without a rank does not count on either side
      have hundefined : isDefined value = false := by rw [isDefined_iff, hrank]; rfl
      rw [List.filter_cons_of_neg (by simp [hundefined]), List.filterMap_cons_none hrank]
      exact ih sofar hsofar
    | some rank =>
      have hdefined : isDefined value = true := by rw [isDefined_iff, hrank]; rfl
      obtain ⟨hbest, hnext⟩ := extreme.best_rank hsofar hrank
      rw [List.filter_cons_of_pos hdefined, List.filterMap_cons_some hrank, List.foldl_cons,
        List.foldl_cons, ← hbest]
      exact ih (extreme.best sofar value) hnext

/-- The best value has the best rank, if any value has a rank. -/
theorem target?_rank (extreme : Extreme) (values : List α) :
    (extreme.target? values).bind rank? = extreme.bestRank? (values.filterMap rank?) ∧
      ∀ target, extreme.target? values = some target → (rank? target).isSome :=
  extreme.foldl_best_rank values none fun b hb => absurd hb (by simp)

/-! ## The candidates that are kept -/

/-- The candidates that have the best value are those that have its rank. -/
theorem keep_eq (extreme : Extreme) (value : Track → Option α) (tracks : List Track) :
    extreme.keep value tracks =
      match extreme.bestRank? (tracks.filterMap fun track => (value track).bind rank?) with
      | none => tracks
      | some best => tracks.filter fun track => (value track).bind rank? = some best := by
  -- with a rank, being equal to the target is having its rank; without any, there is no target
  obtain ⟨hrank, hsome⟩ := extreme.target?_rank (tracks.filterMap value)
  rw [List.filterMap_filterMap] at hrank
  unfold keep
  rw [← hrank]
  cases htarget : extreme.target? (tracks.filterMap value) with
  | none => rfl
  | some target =>
    obtain ⟨best, hbest⟩ := Option.isSome_iff_exists.1 (hsome target htarget)
    simp only [Option.bind_some, hbest]
    refine List.filter_congr fun track _ => ?_
    cases value track with
    | none => simp
    | some v => exact decide_eq_decide.2 (Ranked.compare?_eq_iff hbest)

/-- Keeping an extreme keeps the same candidates in every order. -/
theorem keep_perm (extreme : Extreme) (value : Track → Option α) {tracks₁ tracks₂ : List Track}
    (h : tracks₁.Perm tracks₂) : (extreme.keep value tracks₁).Perm (extreme.keep value tracks₂) := by
  rw [keep_eq, keep_eq, extreme.bestRank?_perm (h.filterMap _)]
  split
  · exact h
  · exact h.filter _

end Extreme

/-! ## Rules and chains -/

namespace Rule

/-- Keeping a width keeps the same candidates in every order. -/
theorem keepWidth_perm (width : Nat) {tracks₁ tracks₂ : List Track} (h : tracks₁.Perm tracks₂) :
    (keepWidth width tracks₁).Perm (keepWidth width tracks₂) := by
  have hunknown : tracks₁.all (·.width.isNone) = tracks₂.all (·.width.isNone) := by
    rw [Bool.eq_iff_iff, List.all_eq_true, List.all_eq_true]
    exact forall_congr' fun track => imp_congr_left h.mem_iff
  rw [keepWidth, keepWidth, hunknown]
  split
  · exact h
  · exact h.filter _

/-- **A rule keeps the same candidates in every order.** -/
theorem apply_perm {rule : Rule} (hrule : rule ≠ .foreignAudio) (kind : Kind)
    {tracks₁ tracks₂ : List Track} (h : tracks₁.Perm tracks₂) :
    ∃ kept₁ kept₂, rule.apply kind tracks₁ = .ok kept₁ ∧ rule.apply kind tracks₂ = .ok kept₂ ∧
      kept₁.Perm kept₂ := by
  cases rule with
  | resolution policy =>
    cases policy with
    | extreme bound => exact ⟨_, _, rfl, rfl, bound.keep_perm Track.width h⟩
    | exact width => exact ⟨_, _, rfl, rfl, keepWidth_perm width h⟩
  | duration bound => exact ⟨_, _, rfl, rfl, bound.keep_perm Track.length? h⟩
  | language allowed => exact ⟨_, _, rfl, rfl, h.filter _⟩
  | codec allowed =>
    by_cases hkind : kind = .video
    · exact ⟨tracks₁, tracks₂, by simp [apply, hkind], by simp [apply, hkind], h⟩
    · refine ⟨_, _, ?_, ?_, h.filter fun track => allowed.contains track.codec⟩
      · rw [apply, if_neg hkind]
      · rw [apply, if_neg hkind]
  | foreignAudio => exact absurd rfl hrule

end Rule

/-- Whether a selection is at its end does not depend on the order. -/
theorem isSettled_perm {tracks₁ tracks₂ : List Track} (h : tracks₁.Perm tracks₂) :
    isSettled tracks₁ = isSettled tracks₂ := by
  rw [isSettled, isSettled, h.length_eq]

namespace Chain

/-- Rules that can be applied keep the same candidates in every order. -/
theorem narrow_perm (kind : Kind) (rules : List Rule) (hrules : .foreignAudio ∉ rules) :
    ∀ {tracks₁ tracks₂ : List Track}, tracks₁.Perm tracks₂ →
      ∃ kept₁ kept₂, narrow kind rules tracks₁ = .ok kept₁ ∧ narrow kind rules tracks₂ = .ok kept₂ ∧
        kept₁.Perm kept₂ := by
  induction rules with
  | nil => exact fun h => ⟨_, _, rfl, rfl, h⟩
  | cons rule rules ih =>
    intro tracks₁ tracks₂ h
    have hrule : rule ≠ .foreignAudio := fun heq => hrules (heq ▸ List.mem_cons_self)
    -- both stop at the same rule, since only the number of candidates counts
    have hsame := isSettled_perm h
    by_cases hsettled : isSettled tracks₂
    · refine ⟨tracks₁, tracks₂, ?_, ?_, h⟩
      · simp [narrow, hsame, hsettled]
      · simp [narrow, hsettled]
    · obtain ⟨kept₁, kept₂, hkept₁, hkept₂, hkept⟩ := Rule.apply_perm hrule kind h
      obtain ⟨last₁, last₂, hlast₁, hlast₂, hlast⟩ :=
        ih (fun hmem => hrules (List.mem_cons_of_mem rule hmem)) hkept
      refine ⟨last₁, last₂, ?_, ?_, hlast⟩
      · simpa [narrow, hsame, hsettled, hkept₁] using hlast₁
      · simpa [narrow, hsettled, hkept₂] using hlast₂

/-- **A chain without a search selects the same candidates in every order.** -/
theorem select_perm {chain : Chain} (hrules : .foreignAudio ∉ chain.rules)
    {tracks₁ tracks₂ kept₁ kept₂ : List Track} (h : tracks₁.Perm tracks₂)
    (h₁ : chain.select tracks₁ = .ok kept₁) (h₂ : chain.select tracks₂ = .ok kept₂) :
    kept₁.Perm kept₂ := by
  obtain ⟨last₁, last₂, hlast₁, hlast₂, hlast⟩ := narrow_perm chain.kind chain.rules hrules h
  cases h₁.symm.trans hlast₁
  cases h₂.symm.trans hlast₂
  exact hlast

end Chain

end TrackSelect
