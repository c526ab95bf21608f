import TrackSelect.Rule.Basic

/-!
# Keeping an extreme

`keepExtreme` keeps the candidates whose value is the least or the largest there is, all of them
if several share it. Values need not be comparable: one that does not even compare with itself,
as a NaN, is treated like a missing one. Without any value to compare, all candidates stay.
-/

namespace TrackSelect

/-- Values of which some pairs, not necessarily all, have an order. -/
class PartlyOrdered (α : Type) where
  compare? : α → α → Option Ordering

instance : PartlyOrdered Nat := ⟨fun a b => some (compare a b)⟩

instance : PartlyOrdered Binary64 := ⟨Binary64.compare?⟩

export PartlyOrdered (compare?)

namespace Extreme

variable {α : Type} [PartlyOrdered α]

/-- The order that makes a value better than another. -/
def better : Extreme → Ordering
  | max => .gt
  | min => .lt

/-- Whether a value compares with itself. -/
def isDefined (value : α) : Bool := (compare? value value).isSome

/-- The better of the best value so far and one more; the earlier where neither is better. -/
def best (extreme : Extreme) (sofar : Option α) (value : α) : Option α :=
  match sofar with
  | none => some value
  | some b => if compare? value b = some extreme.better then some value else some b

/-- The best of some values. -/
def target? (extreme : Extreme) (values : List α) : Option α :=
  (values.filter isDefined).foldl extreme.best none

/-- The candidates that have the best value there is. -/
def keep (extreme : Extreme) (value : Track → Option α) (tracks : List Track) : List Track :=
  match extreme.target? (tracks.filterMap value) with
  | none => tracks
  | some target =>
    tracks.filter fun track => match value track with
      | some v => compare? v target = some .eq
      | none => false

end Extreme

end TrackSelect
