import TrackSelect.Proofs.Toolbox.Reporting

/-!
# Recording what tools answer

`Toolbox.recording` are tools that do the same as others and keep a list of what they answered.
What happened in a run of anything that uses tools can be read off that list afterwards, without
a word about how the run came to it.

`Toolbox.listing` are tools that keep a list of what they were asked for only, whatever became of
it.
-/

namespace TrackSelect

/-- An extraction and what became of it. -/
structure Answered where
  extraction : Extraction
  answer : Except Fault String

variable {σ : Type}

/-- The world with a list of answers beside the memory of the tools. -/
def World.noting (world : World σ) (log : List Answered) : World (σ × List Answered) :=
  ⟨world.disk, (world.memory, log)⟩

/-- The same disk beside a list of answers. -/
@[simp] theorem World.noting_disk (world : World σ) (log : List Answered) :
    (world.noting log).disk = world.disk := rfl

@[simp] theorem World.noting_log (world : World σ) (log : List Answered) :
    (world.noting log).memory.2 = log := rfl

namespace Toolbox

/-- The same tools, with a list of all extractions they answered, in order. -/
def recording (tools : Toolbox σ) : Toolbox (σ × List Answered) where
  probe media world :=
    let (answer, after) := tools.probe media ⟨world.disk, world.memory.1⟩
    (answer, after.noting world.memory.2)
  extractAll media extractions world :=
    let (answers, after) := tools.extractAll media extractions ⟨world.disk, world.memory.1⟩
    (answers, after.noting (world.memory.2 ++ extractions.zipWith Answered.mk answers))

/-- Recording tools extract what the others do, and add it to the list. -/
theorem recording_extractAll (tools : Toolbox σ) (media : String) (extractions : List Extraction)
    (world : World σ) (log : List Answered) :
    tools.recording.extractAll media extractions (world.noting log) =
      ((tools.extractAll media extractions world).1,
        (tools.extractAll media extractions world).2.noting
          (log ++ extractions.zipWith Answered.mk (tools.extractAll media extractions world).1)) :=
  rfl

variable {tools : Toolbox σ} {media : String}

/-- Recording adds the one answer of a single extraction to the list. -/
theorem Reports.recording_extract (h : tools.Reports media) (extraction : Extraction)
    (world : World σ) (log : List Answered) :
    tools.recording.extract media extraction (world.noting log) =
      ((tools.extract media extraction world).1,
        (tools.extract media extraction world).2.noting
          (log ++ [⟨extraction, (tools.extract media extraction world).1⟩])) := by
  rw [extract, recording_extractAll, h.extractAll_singleton]
  rfl

end Toolbox

/-! ## Listing what tools are asked for -/

/-- The world with a list of requests beside the memory of the tools. -/
def World.listed (world : World σ) (requests : List Extraction) : World (σ × List Extraction) :=
  ⟨world.disk, (world.memory, requests)⟩

/-- The same tools, with a list of all extractions they were asked for, in order. -/
def Toolbox.listing (tools : Toolbox σ) : Toolbox (σ × List Extraction) where
  probe media world :=
    let (answer, after) := tools.probe media ⟨world.disk, world.memory.1⟩
    (answer, after.listed world.memory.2)
  extractAll media extractions world :=
    let (answers, after) := tools.extractAll media extractions ⟨world.disk, world.memory.1⟩
    (answers, after.listed (world.memory.2 ++ extractions))

/-- Listing tools extract what the others do, and add the requests to the list. -/
theorem Toolbox.listing_extractAll (tools : Toolbox σ) (media : String)
    (extractions : List Extraction) (world : World σ) (requests : List Extraction) :
    tools.listing.extractAll media extractions (world.listed requests) =
      ((tools.extractAll media extractions world).1,
        (tools.extractAll media extractions world).2.listed (requests ++ extractions)) :=
  rfl

end TrackSelect
