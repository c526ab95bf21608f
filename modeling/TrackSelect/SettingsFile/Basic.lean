import TrackSelect.Toml.Value

/-!
# Settings files

What a settings file says, section by section, before any of it is validated. Everything that a
file may leave out is optional here; lists that are left out are empty.
-/

namespace TrackSelect

/-- A rule as it stands in a file: the entries of its table, sorted by key. Only a table with one
entry can be a rule. -/
abbrev RuleEntry := List (String × Toml)

structure RuleSetEntry where
  name : Option String
  rules : List RuleEntry

structure SelectionSection where
  imageCodecs : Option (List String)
  batchSize : Option Nat
  video : List RuleEntry
  audio : List RuleEntry
  subtitle : List RuleSetEntry

/-- Limits are in units of 1024 bytes and in seconds, the pause is in milliseconds. -/
structure ToolsSection where
  prober : Option String
  encoder : Option String
  outputLimit : Option Nat
  ocrOutputLimit : Option Nat
  waitLimit : Option Nat
  encodeWaitLimit : Option Nat
  ocrCanvas : Option String
  attempts : Option Nat
  pause : Option Nat

structure CaptionsSection where
  folder : Option String

structure EncoderEntry where
  name : String
  options : List String

structure OutputSection where
  folder : String
  options : List String
  video : Option EncoderEntry
  audio : Option EncoderEntry
  subtitle : Option EncoderEntry

structure LoggingSection where
  level : String
  format : Option String

structure SettingsFile where
  selection : SelectionSection
  tools : Option ToolsSection
  captions : Option CaptionsSection
  output : Option OutputSection
  logging : Option LoggingSection

namespace ToolsSection

/-- The section that sets nothing. -/
def empty : ToolsSection := ⟨none, none, none, none, none, none, none, none, none⟩

end ToolsSection

namespace SettingsFile

private def english : RuleEntry := [("language", .array [.string "eng"])]

/-- The file to start from. -/
def initial : SettingsFile where
  selection :=
    { imageCodecs := some ["hdmv_pgs_subtitle", "dvd_subtitle", "dvb_subtitle", "xsub"]
      batchSize := some 4
      video := [[("resolution", .string "max")], [("duration", .string "max")]]
      audio := [english]
      subtitle :=
        [⟨some "foreign", [english, [("foreign", .boolean true)]]⟩, ⟨some "default", [english]⟩] }
  tools := some { ToolsSection.empty with
    prober := some "ffprobe", encoder := some "ffmpeg", outputLimit := some 400 }
  captions := none
  output := none
  logging := some ⟨"info", some "pretty"⟩

end SettingsFile

end TrackSelect
