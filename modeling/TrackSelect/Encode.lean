import TrackSelect.Path
import TrackSelect.Track

/-!
# Encoder arguments

The argument list that makes the encoder write a selection into one file. The media file is input
0 and every caption file a further input, in the order of the subtitles. Each selected track is
mapped once, in the order video, audio, subtitles: from the media file, or, when captions stand in
for it, from its caption file.
-/

namespace TrackSelect

/-- The encoder for one kind of track and its options. -/
structure Encoder where
  name : String
  options : List String
deriving DecidableEq, Repr

namespace Encoder

/-- Take the tracks over as they are. -/
def copy : Encoder := ⟨"copy", []⟩

/-- The choice of an encoder, with the flag of the kind it is for. -/
def arguments (encoder : Encoder) (flag : String) : List String :=
  flag :: encoder.name :: encoder.options

end Encoder

/-- How and where a selection is encoded. -/
structure Output where
  /-- The folder of the encoded file. -/
  folder : String
  /-- Options in front of the inputs. -/
  options : List String
  video : Encoder
  audio : Encoder
  subtitle : Encoder
deriving DecidableEq, Repr

namespace Encode

/-- The encoded file of a media file. -/
def outputPath (media : String) (output : Output) : String :=
  Path.join output.folder (Path.stem media ++ ".mkv")

/-- An input. -/
def input (path : String) : List String := ["-i", path]

/-- The map of a track from the media file. -/
def mapTrack (track : Track) : List String := ["-map", "0:" ++ toString track.index]

/-- The maps of subtitles, when `used` caption inputs are in use already. -/
def mapSubtitles (used : Nat) : List Track → List String
  | [] => []
  | track :: rest =>
    if track.captions.isSome then
      "-map" :: (toString (used + 1) ++ ":0") :: mapSubtitles (used + 1) rest
    else mapTrack track ++ mapSubtitles used rest

/-- The languages of captioned subtitles, the first of which stands at `position` among the
subtitles. A caption file does not tell its language, as a track does. -/
def captionLanguages (position : Nat) : List Track → List String
  | [] => []
  | track :: rest =>
    let language := match track.captions, track.language with
      | some _, some language =>
        ["-metadata:s:s:" ++ toString position, "language=" ++ language]
      | _, _ => []
    language ++ captionLanguages (position + 1) rest

/-- The whole argument list. -/
def arguments (media : String) (selection : Selection) (output : Output) : List String :=
  output.options
    ++ input media ++ selection.captionFiles.flatMap input
    ++ (selection.video ++ selection.audio).flatMap mapTrack
    ++ mapSubtitles 0 selection.subtitle
    ++ output.video.arguments "-c:v" ++ output.audio.arguments "-c:a"
    ++ output.subtitle.arguments "-c:s"
    ++ captionLanguages 0 selection.subtitle
    ++ [outputPath media output]

end Encode

end TrackSelect
