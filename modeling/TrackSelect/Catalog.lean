import TrackSelect.ProbeReport
import TrackSelect.Track

/-!
# Catalogs

The tracks of a media file by kind, in the order of the probe report. A report makes a catalog
when it has a list of records, every record has an index and no index is there twice; records of
other types count for this, but are no tracks.
-/

namespace TrackSelect

/-- The candidates of each kind, in the order of the report. -/
structure Catalog where
  video : List Track := []
  audio : List Track := []
  subtitle : List Track := []
deriving DecidableEq, Repr

namespace StreamRecord

/-- The track of a record that has an index and is of a known kind. Only a video track has a
width. -/
def track? (record : StreamRecord) : Option Track := do
  let index ← record.index
  let kind ← record.codecType.bind Kind.ofName?
  some {
    index
    kind
    codec := record.codec.getD "unknown"
    width := if kind = .video then record.width else none
    duration := record.declaredLength?
    frames := record.frameCount?
    language := record.language? }

end StreamRecord

namespace Catalog

/-- The first defect in a list of records, when `position` records with the indices `seen` stand
before it. -/
def defect? (position : Nat) (seen : List Nat) : List StreamRecord → Option ReportDefect
  | [] => none
  | record :: rest =>
    match record.index with
    | none => some (.noIndex position)
    | some index =>
      if index ∈ seen then some (.repeatedIndex index)
      else defect? (position + 1) (index :: seen) rest

/-- The tracks of a kind among some records. -/
def tracksOf (kind : Kind) (records : List StreamRecord) : List Track :=
  (records.filterMap StreamRecord.track?).filter (·.kind = kind)

/-- The catalog of a report. -/
def ofReport (report : ProbeReport) : Except Fault Catalog :=
  match report.streams with
  | none => .error (.malformedReport .noStreamList)
  | some records =>
    match defect? 0 [] records with
    | some defect => .error (.malformedReport defect)
    | none =>
      .ok {
        video := tracksOf .video records
        audio := tracksOf .audio records
        subtitle := tracksOf .subtitle records }

/-- All tracks: video, audio, subtitles. -/
def tracks (catalog : Catalog) : List Track := catalog.video ++ catalog.audio ++ catalog.subtitle

end Catalog

end TrackSelect
