import TrackSelect.SettingsFile.Basic
import TrackSelect.Toml.Layout

/-!
# Writing settings files

A file is written with the sections and fields that are set, and with all of its lists. Reading
the written file gives the same settings.
-/

namespace TrackSelect

open Toml

/-- The entry of a field, if it is set. -/
def Toml.setField {α : Type} (name : String) (write : α → Toml) : Option α → List (String × Toml)
  | none => []
  | some a => [(name, write a)]

def Toml.ofStrings (texts : List String) : Toml := array (texts.map string)

def Toml.ofNatural (n : Nat) : Toml := integer n

def RuleEntry.toToml (entry : RuleEntry) : Toml := table entry

def RuleSetEntry.toToml (set : RuleSetEntry) : Toml :=
  table (setField "name" string set.name ++ [("rules", array (set.rules.map RuleEntry.toToml))])

def SelectionSection.toToml (s : SelectionSection) : Toml :=
  table (setField "image_codecs" ofStrings s.imageCodecs
    ++ setField "foreign_batch_size" ofNatural s.batchSize
    ++ [("video", array (s.video.map RuleEntry.toToml)),
        ("audio", array (s.audio.map RuleEntry.toToml)),
        ("subtitle", array (s.subtitle.map RuleSetEntry.toToml))])

def ToolsSection.toToml (s : ToolsSection) : Toml :=
  table (setField "ffprobe" string s.prober
    ++ setField "ffmpeg" string s.encoder
    ++ setField "max_output_kb" ofNatural s.outputLimit
    ++ setField "max_ocr_output_kb" ofNatural s.ocrOutputLimit
    ++ setField "wait_cap_secs" ofNatural s.waitLimit
    ++ setField "encode_wait_cap_secs" ofNatural s.encodeWaitLimit
    ++ setField "ocr_canvas" string s.ocrCanvas
    ++ setField "retry_attempts" ofNatural s.attempts
    ++ setField "retry_backoff_ms" ofNatural s.pause)

def CaptionsSection.toToml (s : CaptionsSection) : Toml := table (setField "dir" string s.folder)

def EncoderEntry.toToml (e : EncoderEntry) : Toml :=
  table [("encoder", string e.name), ("options", ofStrings e.options)]

def OutputSection.toToml (s : OutputSection) : Toml :=
  table ([("path", string s.folder), ("options", ofStrings s.options)]
    ++ setField "video" EncoderEntry.toToml s.video
    ++ setField "audio" EncoderEntry.toToml s.audio
    ++ setField "subtitle" EncoderEntry.toToml s.subtitle)

def LoggingSection.toToml (s : LoggingSection) : Toml :=
  table ([("level", string s.level)] ++ setField "format" string s.format)

namespace SettingsFile

/-- The entries of the file's top table. -/
def entries (file : SettingsFile) : List (String × Toml) :=
  [("selection", file.selection.toToml)]
    ++ setField "tools" ToolsSection.toToml file.tools
    ++ setField "captions" CaptionsSection.toToml file.captions
    ++ setField "output" OutputSection.toToml file.output
    ++ setField "logging" LoggingSection.toToml file.logging

/-- The text of a file. -/
def text (file : SettingsFile) : String := document file.entries

end SettingsFile

end TrackSelect
