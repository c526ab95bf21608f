import TrackSelect.Fault
import TrackSelect.Rule.Extreme

/-!
# Applying rules

`Rule.apply` narrows a list of candidates by one rule. `Chain.select` goes through a chain, but
stops as soon as one candidate is left: a single candidate is final, and no rule can drop it.

The foreign-audio rule needs the texts of the tracks; only a rule-set can have it applied
(`RuleSet.evaluate`).
-/

namespace TrackSelect

namespace Rule

/-- Keep the candidates of one width, or all where no width is known. -/
def keepWidth (width : Nat) (tracks : List Track) : List Track :=
  if tracks.all (·.width.isNone) then tracks else tracks.filter (·.width = some width)

/-- Narrow candidates by a rule that needs nothing but their descriptions. -/
def apply (kind : Kind) (rule : Rule) (tracks : List Track) : Except Fault (List Track) :=
  match rule with
  | resolution (.extreme extreme) => .ok (extreme.keep Track.width tracks)
  | resolution (.exact width) => .ok (keepWidth width tracks)
  | duration extreme => .ok (extreme.keep Track.length? tracks)
  | language allowed => .ok (tracks.filter fun track => track.language.any allowed.contains)
  | codec allowed =>
    if kind = .video then .ok tracks
    else .ok (tracks.filter fun track => allowed.contains track.codec)
  | foreignAudio =>
    .error (.invalidRule kind.name "foreign-audio rule outside a subtitle rule-set")

end Rule

/-- Whether one candidate is left, which ends a selection. -/
def isSettled (tracks : List Track) : Bool := tracks.length == 1

namespace Chain

/-- Apply rules in order until one candidate is left. -/
def narrow (kind : Kind) : List Rule → List Track → Except Fault (List Track)
  | [], tracks => .ok tracks
  | rule :: rules, tracks =>
    if isSettled tracks then .ok tracks
    else match rule.apply kind tracks with
      | .ok kept => narrow kind rules kept
      | .error fault => .error fault

/-- Apply every rule in order, however many candidates are left. -/
def applyAll (kind : Kind) : List Rule → List Track → Except Fault (List Track)
  | [], tracks => .ok tracks
  | rule :: rules, tracks =>
    match rule.apply kind tracks with
    | .ok kept => applyAll kind rules kept
    | .error fault => .error fault

/-- The candidates that a chain selects. -/
def select (chain : Chain) (tracks : List Track) : Except Fault (List Track) :=
  narrow chain.kind chain.rules tracks

theorem select_of_isSettled (chain : Chain) {tracks : List Track} (h : isSettled tracks = true) :
    chain.select tracks = .ok tracks := by
  unfold select
  cases chain.rules <;> simp [narrow, h]

@[simp] theorem select_empty (kind : Kind) (tracks : List Track) :
    (empty kind).select tracks = .ok tracks := rfl

end Chain

end TrackSelect
