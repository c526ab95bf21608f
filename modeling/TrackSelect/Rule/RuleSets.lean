import TrackSelect.ForeignAudio
import TrackSelect.Rule.Apply

/-!
# Evaluating rule-sets

Each rule-set fills one subtitle role. The rule-sets run in order over a pool that shrinks: what
one picks, the next ones no longer see. A rule-set narrows its pool like any chain
(`Chain.narrow`), except that a foreign-audio rule is a search (`ForeignAudio.search`).
-/

namespace TrackSelect

/-- What rule-sets have come to. -/
structure Picks where
  selected : List Track := []
  /-- The failures of all searches, in order. -/
  failures : List Fault := []
  /-- The pools that were searched, in order. -/
  searched : List (List Track) := []

namespace RuleSet

variable {σ : Type}

/-- Apply the rules of a rule-set in order until one candidate is left. The failures and the
searched pools are added to those of `picks`. -/
def narrow (tools : Toolbox σ) (setting : ForeignAudio.Setting) (picks : Picks) (world : World σ) :
    List Rule → List Track → Except Fault (List Track × Picks) × World σ
  | [], tracks => (.ok (tracks, picks), world)
  | rule :: rules, tracks =>
    if isSettled tracks then (.ok (tracks, picks), world)
    else match rule with
      | .foreignAudio =>
        let (pick, world) := ForeignAudio.search tools setting tracks world
        narrow tools setting
          { picks with
            failures := picks.failures ++ pick.failures
            searched := picks.searched ++ [tracks] }
          world rules pick.selected
      | rule =>
        match rule.apply .subtitle tracks with
        | .ok kept => narrow tools setting picks world rules kept
        | .error fault => (.error fault, world)

/-- What is left of a pool without the tracks that were picked from it. -/
def remaining (pool picked : List Track) : List Track :=
  pool.filter fun track => !(picked.any (·.index == track.index))

/-- Run rule-sets over a pool; an empty pool ends the run. -/
def run (tools : Toolbox σ) (setting : ForeignAudio.Setting) (picks : Picks) (world : World σ) :
    List RuleSet → List Track → Except Fault Picks × World σ
  | [], _ => (.ok picks, world)
  | set :: sets, pool =>
    if pool = [] then (.ok picks, world)
    else match narrow tools setting picks world set.rules pool with
      | (.ok (picked, picks), world) =>
        run tools setting { picks with selected := picks.selected ++ picked } world sets
          (remaining pool picked)
      | (.error fault, world) => (.error fault, world)

/-- The subtitles that rule-sets select from candidates. -/
def select (tools : Toolbox σ) (setting : ForeignAudio.Setting) (sets : List RuleSet)
    (candidates : List Track) (world : World σ) : Except Fault Picks × World σ :=
  run tools setting {} world sets candidates

end RuleSet

end TrackSelect
