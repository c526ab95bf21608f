import TrackSelect.Catalog
import TrackSelect.Rule.RuleSets
import TrackSelect.Settings.Basic
import TrackSelect.Text.Utf8

/-!
# Ingesting a media file

An ingestion probes a media file, selects tracks of each kind and makes caption files for the
selected bitmap subtitles.

A failed extraction costs the track it concerns, in a search as well as in caption making. Only
when such failures leave no subtitle at all, though the file has some, does the ingestion fail,
with the last of them.
-/

namespace TrackSelect

/-- What an ingestion has come to. -/
structure Ingestion where
  outcome : Except Fault Selection
  /-- The pools that were searched for foreign-audio subtitles, in order. -/
  searched : List (List Track)

namespace Ingest

variable {σ : Type}

/-! ### Caption files -/

/-- The folder of the caption files of a media file. -/
def captionFolder (settings : Settings) (media : String) : String :=
  settings.captionFolder.getD ((Path.parent? media).getD ".")

/-- The caption file of a track. -/
def captionPath (settings : Settings) (media : String) (track : Nat) : String :=
  Path.join (captionFolder settings media)
    (Path.stem media ++ "." ++ toString track ++ ".srt")

/-- Write a caption file, with the folders it needs. -/
def storeCaptions (settings : Settings) (media : String) (track : Nat) (cues : List Cue)
    (disk : Disk) : Except Fault Unit × Disk :=
  match disk.makeFolders (captionFolder settings media) with
  | .error fault => (.error fault, disk)
  | .ok disk =>
    match disk.store (captionPath settings media track) (Text.Utf8.encode (SubRip.render cues)) with
    | .error fault => (.error fault, disk)
    | .ok disk => (.ok (), disk)

/-- Make the caption file of a bitmap subtitle, and give its path. A dump without any complete
cue makes none. -/
def makeCaptions (tools : Toolbox σ) (settings : Settings) (media : String) (track : Nat) :
    Call σ String := fun world =>
  match tools.extract media (.ocr track) world with
  | (.error fault, world) => (.error fault, world)
  | (.ok dump, world) =>
    match OcrDump.cues dump with
    | .error fault => (.error fault, world)
    | .ok [] => (.error (.extraction track "OCR produced no captions"), world)
    | .ok cues =>
      match storeCaptions settings media track cues world.disk with
      | (.error fault, disk) => (.error fault, { world with disk })
      | (.ok (), disk) => (.ok (captionPath settings media track), { world with disk })

/-- A failure that costs no more than the track it concerns, as it is kept for the end. -/
def dropped? (track : Nat) : Fault → Option Fault
  | .malformedFrame line reason =>
    some (.extraction track ("malformed OCR frame at line " ++ toString line ++ ": " ++ reason))
  | .extraction track reason => some (.extraction track reason)
  | _ => none

/-- The tracks that are kept, with caption files, and the failures of the ones that are not. -/
structure Captioned where
  kept : List Track := []
  failures : List Fault := []

/-- Make the caption files of the bitmap subtitles among some tracks. -/
def captionAll (tools : Toolbox σ) (settings : Settings) (media : String) (sofar : Captioned)
    (world : World σ) : List Track → Except Fault Captioned × World σ
  | [] => (.ok sofar, world)
  | track :: rest =>
    if !track.isImage settings.imageCodecs then
      captionAll tools settings media { sofar with kept := sofar.kept ++ [track] } world rest
    else match makeCaptions tools settings media track.index world with
      | (.ok path, world) =>
        captionAll tools settings media
          { sofar with kept := sofar.kept ++ [{ track with captions := some path }] } world rest
      | (.error fault, world) =>
        match dropped? track.index fault with
        | some failure =>
          captionAll tools settings media
            { sofar with failures := sofar.failures ++ [failure] } world rest
        | none => (.error fault, world)

/-! ### The whole ingestion -/

/-- What a search needs to know for a media file. -/
def searchSetting (settings : Settings) (media : String) : ForeignAudio.Setting :=
  ⟨media, settings.imageCodecs, settings.batchSize⟩

/-- The subtitles of an ingestion, from its candidates. -/
def subtitles (tools : Toolbox σ) (settings : Settings) (media : String) (candidates : List Track)
    (world : World σ) : Except Fault (List Track) × List (List Track) × World σ :=
  match RuleSet.select tools (searchSetting settings media) settings.subtitle candidates world with
  | (.error fault, world) => (.error fault, [], world)
  | (.ok picks, world) =>
    match captionAll tools settings media {} world picks.selected with
    | (.error fault, world) => (.error fault, picks.searched, world)
    | (.ok captioned, world) =>
      match (picks.failures ++ captioned.failures).getLast? with
      | some fault =>
        if candidates ≠ [] && captioned.kept = [] then (.error fault, picks.searched, world)
        else (.ok captioned.kept, picks.searched, world)
      | none => (.ok captioned.kept, picks.searched, world)

/-- Ingest one media file. -/
def run (tools : Toolbox σ) (settings : Settings) (media : String) (world : World σ) :
    Ingestion × World σ :=
  let failed (fault : Fault) : Ingestion := ⟨.error fault, []⟩
  match tools.probe media world with
  | (.error fault, world) => (failed fault, world)
  | (.ok report, world) =>
    match Catalog.ofReport report with
    | .error fault => (failed fault, world)
    | .ok catalog =>
      match settings.video.select catalog.video with
      | .error fault => (failed fault, world)
      | .ok video =>
        match settings.audio.select catalog.audio with
        | .error fault => (failed fault, world)
        | .ok audio =>
          match subtitles tools settings media catalog.subtitle world with
          | (.error fault, searched, world) => (⟨.error fault, searched⟩, world)
          | (.ok subtitle, searched, world) => (⟨.ok { video, audio, subtitle }, searched⟩, world)

/-- Ingest media files one after the other. Ingestions that are asked for at the same time are
admitted one by one, in the order in which they were asked for, so this is what becomes of them
too. -/
def runAll (tools : Toolbox σ) (settings : Settings) (world : World σ) :
    List String → List Ingestion × World σ
  | [] => ([], world)
  | media :: rest =>
    let (ingestion, world) := run tools settings media world
    let (others, world) := runAll tools settings world rest
    (ingestion :: others, world)

end Ingest

end TrackSelect
