import TrackSelect.Process.Runner
import TrackSelect.ToolArguments
import TrackSelect.Toolbox

/-!
# External tools

The toolbox whose tools are programs, run on a host. The prober and the encoder run within the limits
of the settings; an OCR run may put out more and take longer. What goes wrong in an extraction
concerns one track only, and is reported as a failure of its extraction.
-/

namespace TrackSelect

namespace ToolSettings

/-- The limits of probing and of text extraction. -/
def limits (tools : ToolSettings) : Limits := ⟨tools.outputLimit, tools.waitLimit⟩

def probing (tools : ToolSettings) : Runner := ⟨tools.prober, tools.limits, tools.retry⟩

def extracting (tools : ToolSettings) : Runner := ⟨tools.encoder, tools.limits, tools.retry⟩

def reading (tools : ToolSettings) : Runner :=
  tools.extracting.withLimits ⟨tools.ocrOutputLimit, tools.encodeWaitLimit⟩

/-- An encoding that failed is not repeated. -/
def encoding (tools : ToolSettings) : Runner :=
  ⟨tools.encoder, ⟨tools.outputLimit, tools.encodeWaitLimit⟩, .none⟩

end ToolSettings

variable {σ : Type}

/-- What programs run on. It does tasks at the same time, and gives what they come to in their
order. -/
abbrev Host (σ : Type) :=
  List (Task (Except Fault Captured)) → World σ → List (Except Fault Captured) × World σ

/-- Do a single task. -/
def Host.run (host : Host σ) (task : Task (Except Fault Captured)) : Call σ Captured := fun world =>
  match host [task] world with
  | (answer :: _, world) => (answer, world)
  | ([], world) => (.error (.system .noProcess), world)

namespace ToolSettings

/-- The run of the encoder for an extraction. -/
def extraction (tools : ToolSettings) (media : String) :
    Extraction → Task (Except Fault Captured)
  | .transcript track format => tools.extracting.run (ToolArguments.transcript media track format)
  | .ocr track => tools.reading.run (ToolArguments.ocr tools.ocrCanvas media track)

end ToolSettings

namespace Toolbox

/-- Go on with the answer of a call. -/
def answered {α β : Type} (call : Call σ α) (next : α → Except Fault β) : Call σ β := fun world =>
  let (answer, world) := call world
  (answer.bind next, world)

/-- The text of an extraction; a failure becomes one of the track. -/
def extracted (extraction : Extraction) : Except Fault Captured → Except Fault String
  | .ok captured => .ok captured.out
  | .error fault => .error (.extraction extraction.track fault.message)

/-- The tools of some settings, run on a host. -/
def external (host : Host σ) (tools : ToolSettings) : Toolbox σ where
  probe media :=
    answered (host.run (tools.probing.run (ToolArguments.probe media))) fun captured =>
      ProbeReport.read captured.out
  extractAll media extractions world :=
    let (answers, world) := host (extractions.map (tools.extraction media)) world
    ((extractions.zip answers).map fun (extraction, answer) => extracted extraction answer, world)

/-- Run the encoder with the arguments of a whole encoding. -/
def encode (host : Host σ) (tools : ToolSettings) (arguments : List String) : Call σ Unit :=
  answered (host.run (tools.encoding.run arguments)) fun _ => .ok ()

end Toolbox

end TrackSelect
