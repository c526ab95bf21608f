import TrackSelect.Fault
import TrackSelect.Json.Literal
import TrackSelect.Text.Blank
import TrackSelect.Text.Numeral
import TrackSelect.Binary64.Reading

/-!
# Probe reports

What the probe says of a media file: a list of records, one for each track, if it could read the
file at all. `ProbeReport.read?` takes a report from its JSON text; the facts of a record that
need interpretation, its length, frame count and language, have functions of their own.

An object may hold members that are not part of a report; nothing is asked of their values but
that they are written correctly. A known member may stand only once. Instead of an object a report
or a record may be an array of its members' values in their order.
-/

namespace TrackSelect

/-- What the probe says of one track. -/
structure StreamRecord where
  index : Option Nat := none
  codecType : Option String := none
  codec : Option String := none
  width : Option Nat := none
  /-- A number, or a text that may hold one. -/
  duration : Option Json := none
  /-- The tags of the track, in the order of their names (`Keyed`). -/
  tags : List (String × Json) := []

/-- What the probe says of a media file; without a list when it could not read the file. -/
structure ProbeReport where
  streams : Option (List StreamRecord)

namespace StreamRecord

/-- The declared length in seconds, if it is a finite number or the text of one. -/
def declaredLength? (record : StreamRecord) : Option Binary64 :=
  let seconds : Option Binary64 := match record.duration with
    | some (.string text) => Binary64.read? (Text.trim text.toList)
    | some (.number (.natural n)) => some (Binary64.ofNat n)
    | some (.number (.negative n)) => some (Binary64.ofRatio true n 1)
    | some (.number (.float x)) => some x
    | _ => none
  seconds.filter Binary64.isFinite

/-- The name of the tag that holds the number of frames. -/
def frameTag : List Char := "NUMBER_OF_FRAMES".toList

/-- Whether a tag tells the number of frames: by its name alone, or by the name, a hyphen and a
language. -/
def isFrameTag (name : String) : Bool :=
  let cs := name.toList
  cs == frameTag || (frameTag ++ ['-']).isPrefixOf cs

/-- The number of frames, as the first tag that tells it has it. -/
def frameCount? (record : StreamRecord) : Option Nat :=
  match record.tags.find? (isFrameTag ·.1) with
  | some (_, .string text) => Text.unsigned? (twoTo 64) (Text.trim text.toList)
  | some (_, .number (.natural n)) => some n
  | _ => none

def language? (record : StreamRecord) : Option String :=
  (Keyed.get? "language" record.tags).bind Json.string?

end StreamRecord

namespace ProbeReport

open Json

/-- The values of some known members of an object, each `none` where the member is missing. -/
def membersOf? (known : List String) (fields : List (Option String × Literal)) :
    Option (List (Option Literal)) := do
  let pairs ← fields.mapM fun (key, item) => key.map fun key => (key, item)
  let given := (pairs.map Prod.fst).filter known.contains
  if given.eraseDups.length = given.length then
    some (known.map fun name => pairs.lookup name)
  else none

/-- The known members of an object, or of an array that gives at least some of them in order. -/
def parts? (known : List String) (least : Nat) : Literal → Option (List (Option Literal))
  | .object fields => membersOf? known fields
  | .array items =>
    if least ≤ items.length && items.length ≤ known.length then
      some ((items.map some).rightpad known.length none)
    else none
  | _ => none

/-- A part that may be missing or null, read as `read` says. -/
def optional? {α : Type} (read : Literal → Option α) : Option Literal → Option (Option α)
  | none | some .null => some none
  | some item => (read item).map some

/-- A whole number below a bound. -/
def natural? (bound : Nat) : Literal → Option Nat
  | .number (some (.natural n)) => if n < bound then some n else none
  | _ => none

def text? : Literal → Option String
  | .string text => text
  | _ => none

/-- The tags of a record; they may be missing, but not null. -/
def tags? (levels : Nat) : Option Literal → Option (List (String × Json))
  | none => some []
  | some (.object fields) => (Literal.memberValues? levels fields).map Keyed.ofList
  | _ => none

/-- How deep arrays and objects may be nested in a report. -/
def nesting : Nat := 127

def record? (item : Literal) : Option StreamRecord := do
  match ← parts? ["index", "codec_type", "codec_name", "width", "duration", "tags"] 5 item with
  | [index, codecType, codec, width, duration, tags] =>
    some {
      index := ← optional? (natural? (twoTo 64)) index
      codecType := ← optional? text? codecType
      codec := ← optional? text? codec
      width := ← optional? (natural? (twoTo 32)) width
      duration := ← optional? (Literal.value? (nesting - 3)) duration
      tags := ← tags? (nesting - 4) tags }
  | _ => none

def records? : Literal → Option (List StreamRecord)
  | .array items => items.mapM record?
  | _ => none

def ofLiteral? (item : Literal) : Option ProbeReport := do
  match ← parts? ["streams", "format"] 0 item with
  | [streams, format] =>
    let _ ← optional? (Literal.value? (nesting - 1)) format
    some { streams := ← optional? records? streams }
  | _ => none

/-- The report of a JSON text. -/
def read (text : String) : Except Fault ProbeReport :=
  match (Literal.read? text).bind ofLiteral? with
  | some report => .ok report
  | none => .error (.malformedReport .unreadable)

end ProbeReport

end TrackSelect
