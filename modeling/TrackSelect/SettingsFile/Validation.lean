import TrackSelect.Fault
import TrackSelect.Settings.Basic
import TrackSelect.SettingsFile.Reading
import TrackSelect.Text.Blank
import TrackSelect.Text.Numeral
import TrackSelect.Toml.Layout

/-!
# Validation of settings files

`SettingsFile.settings` turns what a file says into settings, or into the first fault: the batch
size is looked at first, then the rules of the subtitles, of video and of audio, and the logging
format last. What the file leaves out has the value it has in `Settings.default`, except that
chains of rules are empty.
-/

namespace TrackSelect

open Text (trim unsigned? quotedList)

namespace RuleEntry

/-- A picture width is an extreme or a number of 32 bits, which may be written as a string. -/
def resolution? : Toml → Option Resolution
  | .string text =>
    match Extreme.ofName? text with
    | some bound => some (.extreme bound)
    | none => (unsigned? (twoTo 32) (trim text.toList)).map .exact
  | .integer n => if 0 ≤ n && n < twoTo 32 then some (.exact n.toNat) else none
  | _ => none

/-- One string, or an array of strings. -/
def names? : Toml → Option (List String)
  | .string text => some [text]
  | value => value.strings?

/-- The rule that an entry stands for in a chain of some kind. Only subtitles can be kept for
captioning foreign dialogue. -/
def entryRule? (kind : Kind) (key : String) (value : Toml) : Option Rule :=
  match key with
  | "resolution" => (resolution? value).map .resolution
  | "duration" => (value.string?.bind Extreme.ofName?).map .duration
  | "language" => (names? value).map .language
  | "codec" => (names? value).map .codec
  | "foreign" =>
    match kind, value with
    | .subtitle, .boolean true => some .foreignAudio
    | _, _ => none
  | _ => none

/-- The rule of a table with one entry. -/
def rule (kind : Kind) (entries : RuleEntry) : Except Fault Rule :=
  match entries with
  | [(key, value)] =>
    match entryRule? kind key value with
    | some rule => .ok rule
    | none => .error (.invalidRule kind.name (key ++ " = " ++ value.text))
  | _ =>
    .error (.invalidRule kind.name
      ("expected exactly one key per rule, found " ++ quotedList (Keyed.keys entries)))

end RuleEntry

/-- The chain of some rules; the first that is none is the fault. -/
def Chain.ofEntries (kind : Kind) (entries : List RuleEntry) : Except Fault Chain :=
  (entries.mapM (RuleEntry.rule kind)).map (Chain.mk kind)

/-- A rule-set without a name is named for its position, counted from one. -/
def RuleSetEntry.ruleSet (entry : RuleSetEntry) (position : Nat) : Except Fault RuleSet :=
  (entry.rules.mapM (RuleEntry.rule .subtitle)).map fun rules =>
    ⟨entry.name.getD s!"rule-set {position}", rules⟩

/-- The tools, with what is not set taken from the defaults. -/
def ToolsSection.tools (s : ToolsSection) (base : ToolSettings) : ToolSettings where
  prober := s.prober.getD base.prober
  encoder := s.encoder.getD base.encoder
  outputLimit := (s.outputLimit.map (· * 1024)).getD base.outputLimit
  ocrOutputLimit := (s.ocrOutputLimit.map (· * 1024)).getD base.ocrOutputLimit
  waitLimit := (s.waitLimit.map (· * 1000)).getD base.waitLimit
  encodeWaitLimit := (s.encodeWaitLimit.map (· * 1000)).getD base.encodeWaitLimit
  ocrCanvas := s.ocrCanvas.getD base.ocrCanvas
  retry := ⟨s.attempts.getD base.retry.attempts, s.pause.getD base.retry.pause⟩

/-- An encoder; without an entry the tracks are taken over as they are. -/
def EncoderEntry.encoder : Option EncoderEntry → Encoder
  | none => Encoder.copy
  | some e => ⟨e.name, e.options⟩

def OutputSection.output (s : OutputSection) : Output where
  folder := s.folder
  options := s.options
  video := EncoderEntry.encoder s.video
  audio := EncoderEntry.encoder s.audio
  subtitle := EncoderEntry.encoder s.subtitle

/-- The form of log output; it is pretty if the file does not say. -/
def LoggingSection.logFormat (s : LoggingSection) : Except Fault LogFormat :=
  match s.format with
  | none => .ok .pretty
  | some name =>
    match LogFormat.ofName? name with
    | some format => .ok format
    | none => .error (.settings ("unknown logging format '" ++ name ++ "'"))

namespace SettingsFile

/-- The settings of a file. -/
def settings (file : SettingsFile) : Except Fault Settings := do
  let base := Settings.default
  let batchSize := file.selection.batchSize.getD base.batchSize
  if batchSize = 0 then throw (.settings "selection.foreign_batch_size must be at least 1")
  let subtitle ← file.selection.subtitle.zipIdx.mapM fun (set, i) => set.ruleSet (i + 1)
  let video ← Chain.ofEntries .video file.selection.video
  let audio ← Chain.ofEntries .audio file.selection.audio
  let (logLevel, logFormat) ← match file.logging with
    | none => pure (base.logLevel, base.logFormat)
    | some s => s.logFormat.map (s.level, ·)
  return {
    video, audio, subtitle, batchSize, logLevel, logFormat
    imageCodecs := file.selection.imageCodecs.getD base.imageCodecs
    tools := (file.tools.map (·.tools base.tools)).getD base.tools
    captionFolder := file.captions.bind (·.folder)
    output := file.output.map (·.output) }

end SettingsFile

/-- The settings that the text of a file stands for. -/
def Settings.read (text : String) : Except Fault Settings :=
  match SettingsFile.read? text with
  | some file => file.settings
  | none => .error .unreadableSettings

end TrackSelect
