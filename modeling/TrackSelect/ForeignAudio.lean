import TrackSelect.Caption.OcrDump
import TrackSelect.Caption.SubRip
import TrackSelect.Toolbox
import TrackSelect.Track

/-!
# The search for foreign-audio subtitles

A subtitle track that captions foreign dialogue only has far fewer cues than a full one. The
search counts the cues of every track of a pool and keeps the tracks with some cues, but fewer
than a quarter of what the densest track has.

The texts are extracted in batches. A track whose text cannot be had takes no further part; the
failures are kept, in the order of the pool, for the caller to judge.
-/

namespace TrackSelect.ForeignAudio

/-! ### The sparse tracks -/

/-- The significant bits of a count when counts are compared. -/
def precision : Nat := 53

/-- A count rounded to `precision` significant bits, ties to even; a count up to `2 ^ 53` stays
as it is. -/
def rounded (count : Nat) : Nat :=
  let unit := twoTo (count.log2 + 1 - precision)
  Binary64.roundQuotient count unit * unit

/-- Whether a track has some cues, but fewer than a quarter of the largest number there is. -/
def isSparse (largest count : Nat) : Bool := 0 < count && 4 * rounded count < rounded largest

/-- The sparse ones of some tracks with their numbers of cues, in the order of their indices. -/
def pickSparse (counts : List (Nat × Track)) : List Track :=
  let counts := counts.mergeSort fun a b => b.1 ≤ a.1
  let largest := (counts.head?.map Prod.fst).getD 0
  ((counts.filter fun entry => isSparse largest entry.1).map Prod.snd).mergeSort
    fun a b => a.index ≤ b.index

/-! ### Counting cues -/

/-- The format that texts are extracted in. -/
def format : String := "srt"

/-- What a search needs to know besides the tools. -/
structure Setting where
  media : String
  /-- The codecs of bitmap subtitles. -/
  imageCodecs : List String
  /-- How many extractions run at once; zero counts as one. -/
  batchSize : Nat

/-- The extraction that the cues of a track are counted in. -/
def extraction (setting : Setting) (track : Track) : Extraction :=
  if track.isImage setting.imageCodecs then .ocr track.index else .transcript track.index format

/-- The number of cues in an extracted text; an OCR dump is written as a document first. -/
def cueCount : Extraction → (text : String) → Except Fault Nat
  | .transcript _ _, text => .ok (SubRip.count text)
  | .ocr track, dump =>
    match OcrDump.cues dump with
    | .ok cues => .ok (SubRip.count (SubRip.render cues))
    | .error fault => .error (.extraction track fault.message)

/-! ### Searching -/

/-- What has been counted so far. -/
structure Tally where
  /-- The tracks with their numbers of cues, in the order of the pool. -/
  counts : List (Nat × Track) := []
  /-- The failures, in the order of the pool. -/
  failures : List Fault := []

namespace Tally

/-- Take in what became of the extraction for a track. -/
def add (setting : Setting) (tally : Tally) (track : Track) (answer : Except Fault String) :
    Tally :=
  match answer.bind (cueCount (extraction setting track)) with
  | .ok count => { tally with counts := tally.counts ++ [(count, track)] }
  | .error fault => { tally with failures := tally.failures ++ [fault] }

end Tally

variable {σ : Type}

/-- Consecutive parts of a list, each of `size` elements but the last, which may have fewer. -/
def batches {α : Type} (size : Nat) : List α → List (List α)
  | [] => []
  | a :: rest => (a :: rest.take (size - 1)) :: batches size (rest.drop (size - 1))
termination_by l => l.length
decreasing_by
  simp only [List.length_drop, List.length_cons]
  omega

/-- Count the cues of the tracks of a batch. All extractions have been started when the first one
ends. -/
def countBatch (tools : Toolbox σ) (setting : Setting) (tally : Tally) (world : World σ)
    (batch : List Track) : Tally × World σ :=
  let (answers, world) := tools.extractAll setting.media (batch.map (extraction setting)) world
  ((batch.zip answers).foldl (fun tally (track, answer) => tally.add setting track answer) tally,
    world)

/-- Count the cues of the tracks of all batches, one batch after the other. -/
def countBatches (tools : Toolbox σ) (setting : Setting) (tally : Tally) (world : World σ) :
    List (List Track) → Tally × World σ
  | [] => (tally, world)
  | batch :: rest =>
    let (tally, world) := countBatch tools setting tally world batch
    countBatches tools setting tally world rest

/-- The result of a search: the sparse tracks, and the failures. -/
structure Pick where
  selected : List Track
  failures : List Fault

/-- Search a pool. -/
def search (tools : Toolbox σ) (setting : Setting) (pool : List Track) (world : World σ) :
    Pick × World σ :=
  let (tally, world) := countBatches tools setting {} world (batches setting.batchSize pool)
  (⟨pickSparse tally.counts, tally.failures⟩, world)

/-- The largest number of text extractions that a search of a pool has under way at once. -/
def peak (setting : Setting) (pool : List Track) : Nat :=
  ((batches setting.batchSize pool).map fun batch =>
    batch.countP (!·.isImage setting.imageCodecs)).foldl max 0

end TrackSelect.ForeignAudio
