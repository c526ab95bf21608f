import TrackSelect.Json.Pretty
import TrackSelect.Track

/-!
# Selection reports

A selection as JSON: the lists of kept tracks by kind. The members of a track stand in the order
of `Track.report`, and facts that are not known are left out.
-/

namespace TrackSelect

namespace Track

/-- A track as a JSON object. -/
def report (track : Track) : Json :=
  let known (key : String) : Option Json → List (String × Json)
    | some value => [(key, value)]
    | none => []
  .object <|
    [("index", .number (.natural track.index)),
     ("kind", .string track.kind.name),
     ("codec_name", .string track.codec)]
    ++ known "width" (track.width.map fun n => .number (.natural n))
    ++ known "duration_secs" (track.duration.map fun x => .number (.float x))
    ++ known "frame_count" (track.frames.map fun n => .number (.natural n))
    ++ known "language" (track.language.map .string)
    ++ known "caption_file" (track.captions.map .string)

end Track

namespace Selection

/-- A selection as JSON. -/
def report (selection : Selection) : Json :=
  .object
    [("video", .array (selection.video.map Track.report)),
     ("audio", .array (selection.audio.map Track.report)),
     ("subtitle", .array (selection.subtitle.map Track.report))]

/-- The text of a report. -/
def reportText (selection : Selection) : String := selection.report.pretty

end Selection

end TrackSelect
