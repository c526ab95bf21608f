import TrackSelect.Caption.Timestamp

/-!
# Cues

A caption: its number, the time it is shown and its lines of text.
-/

namespace TrackSelect

/-- One timed caption. -/
structure Cue where
  /-- The place in the document, from one. -/
  sequence : Nat
  start : Timestamp
  stop : Timestamp
  lines : List String
deriving DecidableEq, Repr

namespace Cue

/-- How long the cue is shown, in milliseconds; nothing for one that stops before it starts. -/
def duration (cue : Cue) : Nat := cue.stop.millis - cue.start.millis

end Cue

end TrackSelect
