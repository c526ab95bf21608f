import TrackSelect.Errno

/-!
# Faults

Everything that can go wrong, by its cause. `Fault.message` has the wording; `isRetryable` says
which failures of an external program may pass when it is run again.
-/

namespace TrackSelect

/-- What is wrong with a probe report. -/
inductive ReportDefect where
  /-- The text is not JSON, or not of the shape of a report. -/
  | unreadable
  | noStreamList
  /-- The record at a position, counted from zero, has no index. -/
  | noIndex (position : Nat)
  | repeatedIndex (index : Nat)
  | described (text : String)
deriving DecidableEq, Repr

/-- A cause of failure. -/
inductive Fault where
  | malformedReport (defect : ReportDefect)
  /-- A rule of a chain of some kind is not one that such a chain can hold. -/
  | invalidRule (kind value : String)
  /-- The text of a track could not be had. -/
  | extraction (track : Nat) (reason : String)
  /-- The line of an OCR dump, counted from one, that should have been a text line. -/
  | malformedFrame (line : Nat) (reason : String)
  | processFailed (program status stderr : String)
  | outputLimit (program : String) (limit : Nat)
  | timedOut (program : String) (seconds : Nat)
  | settings (reason : String)
  /-- The settings are not TOML, or not of the shape of settings. -/
  | unreadableSettings
  | system (errno : Errno)
  /-- A path holds a character that no file name can hold. -/
  | unusablePath
deriving DecidableEq, Repr

namespace ReportDefect

def text : ReportDefect → String
  | unreadable => "JSON parse error"
  | noStreamList => "no 'streams' list"
  | noIndex position => s!"stream #{position} has no index"
  | repeatedIndex index => s!"duplicate stream index {index}"
  | described text => text

end ReportDefect

namespace Fault

/-- The wording of a fault. -/
def message : Fault → String
  | malformedReport defect => "Malformed probe data: " ++ defect.text
  | invalidRule kind value => "Invalid " ++ kind ++ " rule configuration: " ++ value
  | extraction track reason => s!"Transcript extraction failed for stream {track}: " ++ reason
  | malformedFrame line reason => s!"Malformed OCR frame at line {line}: " ++ reason
  | processFailed program status stderr => program ++ " failed (" ++ status ++ "): " ++ stderr
  | outputLimit program limit => program ++ s!" output exceeded {limit} bytes"
  | timedOut program seconds => program ++ s!" did not finish within {seconds}s"
  | settings reason => "Configuration error: " ++ reason
  | unreadableSettings => "Configuration error: unreadable settings"
  | system errno => "IO error: " ++ errno.text ++ s!" (os error {errno.number})"
  | unusablePath => "IO error: file name contained an unexpected NUL byte"

/-- Whether running an external program again may help. -/
def isRetryable : Fault → Bool
  | processFailed .. | timedOut .. | system _ | unusablePath => true
  | _ => false

/-- A failure of extraction, which costs no more than the track it concerns. -/
def isExtraction : Fault → Bool
  | extraction .. => true
  | _ => false

end Fault

end TrackSelect
