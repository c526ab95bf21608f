import TrackSelect.Disk
import TrackSelect.ProbeReport

/-!
# Tools

What ingestion asks of external tools, as a value: functions that change the state of the world
and either answer or fail. `Toolbox.scripted` is the toolbox that answers from a table and
remembers its calls.
-/

namespace TrackSelect

/-- The state of the world: the disk, and whatever the tools remember. -/
structure World (σ : Type) where
  disk : Disk
  memory : σ

/-- A call that may fail, and that may change the world either way. -/
abbrev Call (σ α : Type) := World σ → Except Fault α × World σ

/-- A text to be extracted from a media file. -/
inductive Extraction where
  /-- The text of a track in some format. -/
  | transcript (track : Nat) (format : String)
  /-- The OCR dump of a bitmap subtitle. -/
  | ocr (track : Nat)
deriving DecidableEq, Repr

/-- The index of the track. -/
def Extraction.track : Extraction → Nat
  | transcript track _ | ocr track => track

/-- The tools. Each is given the path of the media file it is to work on. -/
structure Toolbox (σ : Type) where
  /-- The probe report of a media file. -/
  probe : (media : String) → Call σ ProbeReport
  /-- What becomes of extractions that are under way at the same time, in their order. -/
  extractAll : (media : String) → List Extraction → World σ → List (Except Fault String) × World σ

namespace Toolbox

/-- A single extraction. -/
def extract {σ : Type} (tools : Toolbox σ) (media : String) (extraction : Extraction) :
    Call σ String := fun world =>
  match tools.extractAll media [extraction] world with
  | (answer :: _, world) => (answer, world)
  | ([], world) => (.error (.extraction extraction.track "no answer"), world)

end Toolbox

/-! ### Scripted tools -/

/-- What a scripted toolbox was asked for. -/
inductive Inquiry where
  | probe
  | extract (extraction : Extraction)
deriving DecidableEq, Repr

/-- Answers by track index, the same for every media file. -/
structure Answers where
  probe : Except Fault ProbeReport
  transcript : Nat → Except Fault String
  ocr : Nat → Except Fault String

/-- The answer to an extraction. -/
def Answers.extract (answers : Answers) : Extraction → Except Fault String
  | .transcript track _ => answers.transcript track
  | .ocr track => answers.ocr track

/-- The toolbox that gives fixed answers. Its memory is the inquiries so far, the last one first. -/
def Toolbox.scripted (answers : Answers) : Toolbox (List Inquiry) where
  probe _ world := (answers.probe, { world with memory := .probe :: world.memory })
  extractAll _ extractions world :=
    (extractions.map answers.extract,
      { world with memory := (extractions.map .extract).reverse ++ world.memory })

end TrackSelect
