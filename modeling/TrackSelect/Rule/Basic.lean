import TrackSelect.Text.Quoted
import TrackSelect.Track

/-!
# Rules

A rule narrows a list of candidates. Rules stand in chains, each for one kind of track; a named
subtitle chain is a rule-set, and fills one subtitle role.
-/

namespace TrackSelect

/-- An end of a range of values. -/
inductive Extreme where
  | min
  | max
deriving DecidableEq, Repr

namespace Extreme

def ofName? : String → Option Extreme
  | "min" => some min
  | "max" => some max
  | _ => none

/-- The name in lower case, as it stands in settings. -/
def name : Extreme → String
  | min => "min"
  | max => "max"

/-- The name as a title. -/
def title : Extreme → String
  | min => "Min"
  | max => "Max"

end Extreme

/-- Which picture widths are kept. -/
inductive Resolution where
  | extreme (bound : Extreme)
  | exact (width : Nat)
deriving DecidableEq, Repr

/-- One step of a chain. -/
inductive Rule where
  | resolution (policy : Resolution)
  | duration (extreme : Extreme)
  /-- Keep the tracks with one of these language tags. -/
  | language (allowed : List String)
  /-- Keep the tracks with one of these codecs; of video tracks, all. -/
  | codec (allowed : List String)
  /-- Keep the subtitles with few cues, which caption foreign dialogue only. -/
  | foreignAudio
deriving DecidableEq, Repr

namespace Rule

/-- The key of the rule in settings. -/
def name : Rule → String
  | resolution _ => "resolution"
  | duration _ => "duration"
  | language _ => "language"
  | codec _ => "codec"
  | foreignAudio => "foreign"

/-- The rule with its value, for messages. -/
def text : Rule → String
  | resolution (.extreme e) => "resolution=" ++ e.title
  | resolution (.exact width) => "resolution=" ++ toString width
  | duration e => "duration=" ++ e.title
  | language allowed => "language=" ++ Text.quotedList allowed
  | codec allowed => "codec=" ++ Text.quotedList allowed
  | foreignAudio => "foreign"

end Rule

/-- The rules for one kind of track, in order. -/
structure Chain where
  kind : Kind
  rules : List Rule
deriving DecidableEq, Repr

namespace Chain

/-- The chain without rules, which keeps every candidate. -/
def empty (kind : Kind) : Chain := ⟨kind, []⟩

def hasForeignAudio (chain : Chain) : Bool := chain.rules.contains .foreignAudio

end Chain

/-- A subtitle role: a name and the rules that fill it. -/
structure RuleSet where
  name : String
  rules : List Rule
deriving DecidableEq, Repr

namespace RuleSet

/-- The rules as a chain; a rule-set is about subtitles. -/
def chain (set : RuleSet) : Chain := ⟨.subtitle, set.rules⟩

end RuleSet

end TrackSelect
