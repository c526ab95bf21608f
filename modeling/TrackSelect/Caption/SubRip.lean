import TrackSelect.Caption.Cue
import TrackSelect.Text.DecimalDigit
import TrackSelect.Text.Lines

/-!
# SubRip documents

A SubRip document has for each cue a line with its number, a line `start --> stop`, the lines of
its text and a blank line. `render` writes a document, `count` counts the cue headers of any text
(a line of digits only, with a timing line right behind it) and `timings` reads the timing lines.
-/

namespace TrackSelect.SubRip

/-- What stands between the two timestamps of a timing line. -/
def arrow : List Char := " --> ".toList

/-- The timing line of a cue. -/
def timingLine (cue : Cue) : List Char := cue.start.chars ++ arrow ++ cue.stop.chars

/-- The text lines of a cue that are written: a blank line would end the cue. -/
def textLines (cue : Cue) : List (List Char) :=
  (cue.lines.map String.toList).filter fun line => !Text.allBlank line

/-- The lines of a cue, the blank one that ends it included. -/
def cueLines (cue : Cue) : List (List Char) :=
  Text.digits cue.sequence :: timingLine cue :: textLines cue ++ [[]]

/-- The text of a document: each line with a line feed behind it. -/
def chars (cues : List Cue) : List Char := (cues.flatMap cueLines).flatMap (· ++ ['\n'])

/-- A document. -/
def render (cues : List Cue) : String := String.ofList (chars cues)

/-! ### Counting -/

/-- The form of a timing line: a zero stands for any decimal digit, all else for itself. -/
def timingForm : List Char := "00:00:00,000 --> 00:00:00,000".toList

/-- Whether a text starts with something of a form. -/
def startsLike : List Char → List Char → Bool
  | [], _ => true
  | _ :: _, [] => false
  | f :: form, c :: cs => (if f = '0' then Text.isDecimalDigit c else f == c) && startsLike form cs

/-- The length of the header that a text starts with: the number, the line end and the form of
the timing line. -/
def headerLength? (cs : List Char) : Option Nat :=
  let number := cs.takeWhile Text.isDecimalDigit
  if number = [] then none else
  match cs.dropWhile Text.isDecimalDigit with
  | '\r' :: '\n' :: rest =>
    if startsLike timingForm rest then some (number.length + 2 + timingForm.length) else none
  | '\n' :: rest =>
    if startsLike timingForm rest then some (number.length + 1 + timingForm.length) else none
  | _ => none

/-- Count headers from left to right. A header starts at the start of a line, and its characters
(`skip` of them are still to come) take part in no other header. -/
def countFrom (skip : Nat) (lineStart : Bool) (found : Nat) : List Char → Nat
  | [] => found
  | c :: rest =>
    match skip with
    | skip + 1 => countFrom skip (c == '\n') found rest
    | 0 =>
      match if lineStart then headerLength? (c :: rest) else none with
      | some length => countFrom (length - 1) (c == '\n') (found + 1) rest
      | none => countFrom 0 (c == '\n') found rest

/-- The number of cue headers in a text. -/
def count (text : String) : Nat := countFrom 0 true 0 text.toList

/-! ### Timings -/

/-- The two parts of a text around the first occurrence of a separator. -/
def splitOnce? (separator : List Char) : List Char → Option (List Char × List Char)
  | [] => if separator = [] then some ([], []) else none
  | c :: rest =>
    match separator.isPrefixOf? (c :: rest) with
    | some behind => some ([], behind)
    | none => (splitOnce? separator rest).map fun (before, behind) => (c :: before, behind)

/-- The two timestamps of a timing line. -/
def timing? (line : List Char) : Option (Timestamp × Timestamp) := do
  let (start, stop) ← splitOnce? arrow line
  some (← Timestamp.read? start, ← Timestamp.read? stop)

/-- The timings of a document, in order. -/
def timings (text : String) : List (Timestamp × Timestamp) :=
  (Text.lines text.toList).filterMap timing?

end TrackSelect.SubRip
