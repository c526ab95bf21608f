import TrackSelect.Binary64.Rounding

/-!
# Tracks

A media file holds tracks of three kinds. A track is known by its index in the file; the rest is
what the probe says of it, and `captions` is the caption file that stands in for a bitmap subtitle.
-/

namespace TrackSelect

/-- The kinds of tracks that can be selected. -/
inductive Kind where
  | video
  | audio
  | subtitle
deriving DecidableEq, Repr

namespace Kind

def name : Kind → String
  | video => "video"
  | audio => "audio"
  | subtitle => "subtitle"

/-- The kind of a name; tracks of other types, such as attachments, have none. -/
def ofName? : String → Option Kind
  | "video" => some video
  | "audio" => some audio
  | "subtitle" => some subtitle
  | _ => none

@[simp] theorem ofName?_name (kind : Kind) : ofName? kind.name = some kind := by
  cases kind <;> rfl

end Kind

/-- One track of a media file. -/
structure Track where
  /-- The place in the file, which no other track shares. -/
  index : Nat
  kind : Kind
  codec : String
  /-- The width of the picture in pixels. -/
  width : Option Nat := none
  /-- The declared length in seconds. -/
  duration : Option Binary64 := none
  /-- The number of frames, from the tags of the file. -/
  frames : Option Nat := none
  language : Option String := none
  /-- The caption file made for the track. -/
  captions : Option String := none
deriving DecidableEq, Repr

namespace Track

/-- The length that duration rules compare: the declared one, else the number of frames. -/
def length? (track : Track) : Option Binary64 :=
  track.duration.or (track.frames.map Binary64.ofNat)

/-- Whether a track is a bitmap subtitle, by the codecs that are. -/
def isImage (imageCodecs : List String) (track : Track) : Bool := imageCodecs.contains track.codec

end Track

/-- The tracks that are kept, by kind. -/
structure Selection where
  video : List Track := []
  audio : List Track := []
  subtitle : List Track := []
deriving DecidableEq, Repr

namespace Selection

/-- The tracks of a kind. -/
def ofKind (selection : Selection) : Kind → List Track
  | .video => selection.video
  | .audio => selection.audio
  | .subtitle => selection.subtitle

/-- The indices of the tracks of a kind. -/
def indices (selection : Selection) (kind : Kind) : List Nat :=
  (selection.ofKind kind).map Track.index

/-- The caption files, in the order of the subtitles. -/
def captionFiles (selection : Selection) : List String :=
  selection.subtitle.filterMap Track.captions

end Selection

end TrackSelect
