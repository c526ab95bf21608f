import TrackSelect.Binary64.Reading
import TrackSelect.Caption.Cue
import TrackSelect.Fault
import TrackSelect.Text.DecimalDigit
import TrackSelect.Text.Lines
import TrackSelect.Text.Quoted

/-!
# OCR dumps

The frames of a rendered bitmap subtitle, with the text recognised on each. A frame is a marker
line (`frame:N pts:P pts_time:T`), a text line (`lavfi.ocr.text=…`) right behind it, and the
lines up to the next marker, which continue its text. Both kinds of line may have a log
decoration (`[name] `) in front.

`frames` reads the frames of a dump, and fails where a marker has no text line behind it.
`cues` turns frames into cues: a frame with text opens a cue, and the next frame closes it; a cue
that is never closed is dropped.
-/

namespace TrackSelect.OcrDump

/-! ### Lines -/

/-- A line without the blanks and the log decoration in front of it. -/
def undecorated (line : List Char) : List Char :=
  match Text.trimStart line with
  | '[' :: rest =>
    match rest.dropWhile (· ≠ ']') with
    | _ :: behind => Text.trimStart behind
    | [] => '[' :: rest
  | rest => rest

/-- What starts a text line. -/
def textKey : List Char := "lavfi.ocr.text=".toList

/-- What starts the time in a marker line. -/
def timeKey : List Char := "pts_time:".toList

/-- The text of a text line. -/
def payload? (line : List Char) : Option (List Char) := textKey.isPrefixOf? (undecorated line)

/-- The number at the start of a text: perhaps a minus sign, digits, and perhaps a point with
digits behind it. -/
def decimalAt? (cs : List Char) : Option (List Char) :=
  let (sign, cs) := match cs with
    | '-' :: rest => (['-'], rest)
    | _ => ([], cs)
  let whole := cs.takeWhile Text.isDecimalDigit
  if whole = [] then none else
  let fraction := match cs.dropWhile Text.isDecimalDigit with
    | '.' :: rest => rest.takeWhile Text.isDecimalDigit
    | _ => []
  some (sign ++ whole ++ if fraction = [] then [] else '.' :: fraction)

/-- The number behind the first time key that has one. -/
def timeText? : List Char → Option (List Char)
  | [] => none
  | c :: rest =>
    let behind? := timeKey.isPrefixOf? (c :: rest)
    match behind?.bind fun behind => decimalAt? (Text.trimStart behind) with
    | some number => some number
    | none => timeText? rest

/-- The number and the time of a frame, from its marker line. -/
structure Marker where
  frame : Nat
  /-- In seconds; missing when the line has no usable time. -/
  time : Option Binary64
deriving DecidableEq, Repr

/-- The marker of a marker line. -/
def marker? (line : List Char) : Option Marker := do
  let behind ← "frame:".toList.isPrefixOf? (undecorated line)
  let cs := Text.trimStart behind
  let number := cs.takeWhile Text.isDecimalDigit
  let rest := cs.dropWhile Text.isDecimalDigit
  let key := Text.trimStart rest
  if key.length < rest.length && ("pts:".toList.isPrefixOf key || timeKey.isPrefixOf key) then
    let frame ← Text.unsigned? (twoTo 64) number
    some { frame, time := (timeText? line).bind Binary64.read? }
  else none

def isMarker (line : List Char) : Bool := (marker? line).isSome

/-! ### Frames -/

/-- One frame of a dump. -/
structure Frame where
  number : Nat
  time : Option Binary64
  /-- The recognised text and the lines that continue it, without blanks at their ends. -/
  lines : List String
deriving DecidableEq, Repr

namespace Frame

def hasText (frame : Frame) : Bool := frame.lines.any fun line => !Text.allBlank line.toList

/-- The moment of the frame; one without a usable time is timed at zero. -/
def timestamp (frame : Frame) : Timestamp :=
  match frame.time with
  | some seconds => .ofSeconds seconds
  | none => .zero

end Frame

/-- A line of a frame as it is kept. -/
def kept (line : List Char) : String := String.ofList (Text.trimEnd line)

/-- The fault of a line that should have been the text line of a frame. -/
def missingText (lineNumber frame : Nat) (line : List Char) : Fault :=
  .malformedFrame lineNumber
    ("expected '" ++ String.ofList textKey ++ "' line after frame " ++ toString frame
      ++ ", found " ++ Text.quoted (String.ofList line))

/-- The frames of some lines, the first of which has the number `lineNumber`. Lines before the
first marker belong to no frame, and a marker that is the last line starts none. -/
def framesFrom (lineNumber : Nat) : List (List Char) → Except Fault (List Frame)
  | [] => .ok []
  | line :: rest =>
    match marker? line with
    | none => framesFrom (lineNumber + 1) rest
    | some marker =>
      match rest with
      | [] => .ok []
      | textLine :: rest =>
        match payload? textLine with
        | none => .error (missingText (lineNumber + 1) marker.frame textLine)
        | some text =>
          let more := rest.takeWhile (!isMarker ·)
          match framesFrom (lineNumber + 2 + more.length) (rest.dropWhile (!isMarker ·)) with
          | .error fault => .error fault
          | .ok frames =>
            .ok (⟨marker.frame, marker.time, kept text :: more.map kept⟩ :: frames)
termination_by lines => lines.length
decreasing_by
  · simp
  · have := (List.dropWhile_sublist (l := rest) (!isMarker ·)).length_le
    simp only [List.length_cons]
    omega

/-- The frames of a dump. -/
def frames (text : String) : Except Fault (List Frame) := framesFrom 1 (Text.lines text.toList)

/-! ### Cues -/

/-- The cues of some frames, when `opened` is the frame whose cue is still open and `made` cues
have been closed. -/
def cuesFrom (opened : Option Frame) (made : Nat) : List Frame → List Cue
  | [] => []
  | frame :: rest =>
    let next := if frame.hasText then some frame else none
    match opened with
    | some first =>
      ⟨made + 1, first.timestamp, frame.timestamp, first.lines⟩ :: cuesFrom next (made + 1) rest
    | none => cuesFrom next made rest

/-- The cues of a dump, numbered from one. -/
def cues (text : String) : Except Fault (List Cue) :=
  match frames text with
  | .ok frames => .ok (cuesFrom none 0 frames)
  | .error fault => .error fault

end TrackSelect.OcrDump
