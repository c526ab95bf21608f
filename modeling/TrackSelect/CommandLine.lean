import TrackSelect.ExternalTools
import TrackSelect.Ingest
import TrackSelect.Report
import TrackSelect.SettingsFile.Validation

/-!
# The command line

The program takes the path of a settings file and then the media files. It ingests one after the
other, writes a report on each selection, and encodes it if the settings say how. It succeeds if
all of them do.
-/

namespace TrackSelect

namespace CommandLine

/-- What the program has to say. -/
structure Outcome where
  /-- Whether everything went well. -/
  succeeded : Bool := true
  /-- The reports. -/
  output : String := ""
  /-- What went wrong, one line each. -/
  complaints : List String := []
deriving DecidableEq, Repr

namespace Outcome

/-- One outcome after another. -/
def andThen (first second : Outcome) : Outcome where
  succeeded := first.succeeded && second.succeeded
  output := first.output ++ second.output
  complaints := first.complaints ++ second.complaints

def failure (complaint : String) : Outcome := { succeeded := false, complaints := [complaint] }

end Outcome

variable {σ : Type}

/-- The settings in a file; without the file, the default settings. -/
def settingsAt (disk : Disk) (path : String) : Except Fault Settings :=
  if disk.isThere path then
    match disk.load path with
    | .ok content =>
      match Text.Utf8.decode? content with
      | some text => Settings.read text
      | none => .error .unreadableSettings
    | .error fault => .error fault
  else .ok .default

/-- Ingest a media file, and encode it if the settings say how. -/
def ingest (host : Host σ) (settings : Settings) (media : String) (world : World σ) :
    Outcome × World σ :=
  let failed (fault : Fault) : Outcome :=
    .failure ("Ingestion of " ++ media ++ " failed: " ++ fault.message)
  match Ingest.run (Toolbox.external host settings.tools) settings media world with
  | (⟨.error fault, _⟩, world) => (failed fault, world)
  | (⟨.ok selection, _⟩, world) =>
    let reported : Outcome := { output := selection.reportText ++ "\n" }
    match settings.output with
    | none => (reported, world)
    | some output =>
      let arguments := Encode.arguments media selection output
      match Toolbox.encode host settings.tools arguments world with
      | (.ok (), world) => (reported, world)
      | (.error fault, world) => (reported.andThen (failed fault), world)

/-- Ingest media files one after the other. -/
def ingestAll (host : Host σ) (settings : Settings) (world : World σ) :
    List String → Outcome × World σ
  | [] => ({}, world)
  | media :: rest =>
    let (first, world) := ingest host settings media world
    let (others, world) := ingestAll host settings world rest
    (first.andThen others, world)

/-- The settings file that is used if none is named. -/
def defaultSettingsPath : String := "config.toml"

/-- The settings file that the arguments name. -/
def settingsPath (arguments : List String) : String := arguments.headD defaultSettingsPath

/-- The paths of the tools that a settings file on the disk names. -/
def tools (disk : Disk) (path : String) : List String :=
  match settingsAt disk path with
  | .ok settings => [settings.tools.prober, settings.tools.encoder]
  | .error _ => []

/-- Run the program with some arguments. -/
def run (host : Host σ) (arguments : List String) (world : World σ) : Outcome × World σ :=
  let path := settingsPath arguments
  match settingsAt world.disk path with
  | .error fault =>
    (.failure ("stream-select: invalid configuration " ++ path ++ ": " ++ fault.message), world)
  | .ok settings =>
    match arguments.drop 1 with
    | [] => (.failure "No media files given. Usage: stream-select <config.toml> <media>...", world)
    | media => ingestAll host settings world media

end CommandLine

end TrackSelect
