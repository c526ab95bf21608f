import TrackSelect.SettingsFile.Basic
import TrackSelect.SettingsFile.Record
import TrackSelect.Toml.Reader

/-!
# Reading settings files

Each section is a record (`Toml.field?`), with its fields in the order given here. A file is read
only if every field that it has is of the right type; whether the values make sense is decided
later.
-/

namespace TrackSelect

open Toml

/-- A rule is any table. -/
def RuleEntry.ofToml? (value : Toml) : Option RuleEntry := do
  let entries ← value.entries?
  (entriesByKey? entries).map Keyed.ofList

def RuleSetEntry.ofToml? (value : Toml) : Option RuleSetEntry := do
  guard value.isRecord
  let name ← optional? string? (value.field? 0 "name")
  let rules ← list? RuleEntry.ofToml? (← value.field? 1 "rules")
  some { name, rules }

/-- The bound of whole numbers of 64 bits without a sign. -/
private def wide : Nat := twoTo 64

def SelectionSection.ofToml? (value : Toml) : Option SelectionSection := do
  guard value.isRecord
  let imageCodecs ← optional? (list? string?) (value.field? 0 "image_codecs")
  let batchSize ← optional? (natural? wide) (value.field? 1 "foreign_batch_size")
  let video ← listOrNone? RuleEntry.ofToml? (value.field? 2 "video")
  let audio ← listOrNone? RuleEntry.ofToml? (value.field? 3 "audio")
  let subtitle ← listOrNone? RuleSetEntry.ofToml? (value.field? 4 "subtitle")
  some { imageCodecs, batchSize, video, audio, subtitle }

def ToolsSection.ofToml? (value : Toml) : Option ToolsSection := do
  guard value.isRecord
  let prober ← optional? string? (value.field? 0 "ffprobe")
  let encoder ← optional? string? (value.field? 1 "ffmpeg")
  let outputLimit ← optional? (natural? wide) (value.field? 2 "max_output_kb")
  let ocrOutputLimit ← optional? (natural? wide) (value.field? 3 "max_ocr_output_kb")
  let waitLimit ← optional? (natural? wide) (value.field? 4 "wait_cap_secs")
  let encodeWaitLimit ← optional? (natural? wide) (value.field? 5 "encode_wait_cap_secs")
  let ocrCanvas ← optional? string? (value.field? 6 "ocr_canvas")
  let attempts ← optional? (natural? (twoTo 32)) (value.field? 7 "retry_attempts")
  let pause ← optional? (natural? wide) (value.field? 8 "retry_backoff_ms")
  some { prober, encoder, outputLimit, ocrOutputLimit, waitLimit, encodeWaitLimit, ocrCanvas,
         attempts, pause }

def CaptionsSection.ofToml? (value : Toml) : Option CaptionsSection := do
  guard value.isRecord
  let folder ← optional? string? (value.field? 0 "dir")
  some { folder }

def EncoderEntry.ofToml? (value : Toml) : Option EncoderEntry := do
  guard value.isRecord
  let name ← string? (← value.field? 0 "encoder")
  let options ← listOrNone? string? (value.field? 1 "options")
  some { name, options }

def OutputSection.ofToml? (value : Toml) : Option OutputSection := do
  guard value.isRecord
  let folder ← string? (← value.field? 0 "path")
  let options ← listOrNone? string? (value.field? 1 "options")
  let video ← optional? EncoderEntry.ofToml? (value.field? 2 "video")
  let audio ← optional? EncoderEntry.ofToml? (value.field? 3 "audio")
  let subtitle ← optional? EncoderEntry.ofToml? (value.field? 4 "subtitle")
  some { folder, options, video, audio, subtitle }

def LoggingSection.ofToml? (value : Toml) : Option LoggingSection := do
  guard value.isRecord
  let level ← string? (← value.field? 0 "level")
  let format ← optional? string? (value.field? 1 "format")
  some { level, format }

namespace SettingsFile

def ofToml? (value : Toml) : Option SettingsFile := do
  guard value.isRecord
  let selection ← SelectionSection.ofToml? (← value.field? 0 "selection")
  let tools ← optional? ToolsSection.ofToml? (value.field? 1 "tools")
  let captions ← optional? CaptionsSection.ofToml? (value.field? 2 "captions")
  let output ← optional? OutputSection.ofToml? (value.field? 3 "output")
  let logging ← optional? LoggingSection.ofToml? (value.field? 4 "logging")
  some { selection, tools, captions, output, logging }

/-- What the text of a file says. -/
def read? (text : String) : Option SettingsFile := (Toml.read? text).bind ofToml?

end SettingsFile

end TrackSelect
