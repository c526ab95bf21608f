import TrackSelect.Encode
import TrackSelect.Rule.Basic

/-!
# Settings

What an ingestion goes by, validated: chains of rules that fit their kinds, limits and paths for
the tools, and where captions and encoded files go.
-/

namespace TrackSelect

/-- When a failed program is run again. -/
structure Retry where
  /-- How often it is run at most, the first time included; zero counts as one. -/
  attempts : Nat
  /-- The pause before the second run, in whole milliseconds; it grows by this much each time. A
  settings file gives no other pauses. One with a part of a millisecond, which a caller of the library
  can ask for, has no counterpart here. -/
  pause : Nat
deriving DecidableEq, Repr

namespace Retry

/-- Run once. -/
def none : Retry := ⟨1, 0⟩

/-- The longest time a pause can have, in whole milliseconds: it is `2 ^ 64 - 1` seconds and all but a
nanosecond more. -/
def longestPause : Nat := twoTo 64 * 1000 - 1

/-- The pause before a run again, the first of which is number one, in whole milliseconds; none if
it is too long to be expressed. A multiple of whole milliseconds is expressed without rounding, so
nothing is lost for the pauses that `Retry.pause` can have. -/
def pauseBefore? (retry : Retry) (again : Nat) : Option Nat :=
  let pause := retry.pause * again
  if pause ≤ longestPause then some pause else .none

end Retry

/-- The external tools and their limits. -/
structure ToolSettings where
  prober : String
  encoder : String
  /-- The most bytes that one run may put out. -/
  outputLimit : Nat
  /-- The same for an OCR run, which has lines for every frame. -/
  ocrOutputLimit : Nat
  /-- The longest time of a run of the prober or of an extraction, in milliseconds. -/
  waitLimit : Nat
  /-- The longest time of an encoding or OCR run, in milliseconds. -/
  encodeWaitLimit : Nat
  /-- The size of the picture that bitmap subtitles are drawn on. -/
  ocrCanvas : String
  retry : Retry
deriving DecidableEq, Repr

/-- The forms of log output. -/
inductive LogFormat where
  | pretty
  | json
deriving DecidableEq, Repr

namespace LogFormat

def name : LogFormat → String
  | pretty => "pretty"
  | json => "json"

def ofName? : String → Option LogFormat
  | "pretty" => some pretty
  | "json" => some json
  | _ => none

end LogFormat

/-- All settings. -/
structure Settings where
  video : Chain
  audio : Chain
  /-- The subtitle roles, in the order in which they are filled. -/
  subtitle : List RuleSet
  /-- The codecs of bitmap subtitles. -/
  imageCodecs : List String
  /-- How many extractions run at once in a search. -/
  batchSize : Nat
  tools : ToolSettings
  /-- The folder of caption files; without one they go next to the media file. -/
  captionFolder : Option String
  /-- How to encode; without it nothing is encoded. -/
  output : Option Output
  logLevel : String
  logFormat : LogFormat
deriving DecidableEq, Repr

namespace Settings

def defaultImageCodecs : List String :=
  ["hdmv_pgs_subtitle", "dvd_subtitle", "dvb_subtitle", "xsub"]

def defaultTools : ToolSettings where
  prober := "ffprobe"
  encoder := "ffmpeg"
  outputLimit := 400 * 1024
  ocrOutputLimit := 16 * 1024 * 1024
  waitLimit := 10 * 60 * 1000
  encodeWaitLimit := 12 * 60 * 60 * 1000
  ocrCanvas := "1920x1080"
  retry := ⟨3, 2000⟩

/-- The settings where nothing is set: the largest and longest picture, English sound, and
English subtitles, those for foreign dialogue first. -/
def default : Settings where
  video := ⟨.video, [.resolution (.extreme .max), .duration .max]⟩
  audio := ⟨.audio, [.language ["eng"]]⟩
  subtitle := [⟨"foreign", [.language ["eng"], .foreignAudio]⟩, ⟨"default", [.language ["eng"]]⟩]
  imageCodecs := defaultImageCodecs
  batchSize := 4
  tools := defaultTools
  captionFolder := none
  output := none
  logLevel := "info"
  logFormat := .pretty

end Settings

end TrackSelect
