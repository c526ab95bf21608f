import TrackSelect.Binary64.Rounding
import TrackSelect.Text.Blank
import TrackSelect.Text.Numeral

/-!
# Caption timestamps

A moment of a media file in whole milliseconds, written `HH:MM:SS,mmm`. `Timestamp.text` writes
it, with as many digits for the hours as they need, and `Timestamp.read?` reads it back.
-/

namespace TrackSelect

/-- Milliseconds from the start of the file. -/
structure Timestamp where
  millis : Nat
deriving DecidableEq, Repr

namespace Timestamp

def zero : Timestamp := ⟨0⟩

/-- The largest timestamp; later moments are timed here. -/
def latest : Nat := twoTo 64 - 1

/-- The millisecond nearest to a number of seconds. Negative numbers, infinities and NaNs are
timed at zero. -/
def ofSeconds (seconds : Binary64) : Timestamp :=
  if !seconds.isFinite || seconds.isNegative then zero
  else
    let millis := seconds.mul (Binary64.ofNat 1000)
    if millis.isFinite then ⟨min millis.roundUp latest⟩ else ⟨latest⟩

/-- The written form, as characters. -/
def chars (t : Timestamp) : List Char :=
  let seconds := t.millis / 1000
  let minutes := seconds / 60
  Text.padded 2 (minutes / 60) ++ ':' :: Text.padded 2 (minutes % 60) ++
    ':' :: Text.padded 2 (seconds % 60) ++ ',' :: Text.padded 3 (t.millis % 1000)

/-- The written form. -/
def text (t : Timestamp) : String := String.ofList t.chars

/-- The comma, or the point that some writers put in its place. -/
def isMark (c : Char) : Bool := c = ',' || c = '.'

/-- The timestamp of hours, minutes, seconds and milliseconds, if minutes and seconds are below
sixty. -/
def ofClock? (hours minutes seconds millis : Nat) : Option Timestamp :=
  if minutes < 60 && seconds < 60 then
    some ⟨((hours * 60 + minutes) * 60 + seconds) * 1000 + millis⟩
  else none

/-- The timestamp that a text stands for; blanks around it do not count. -/
def read? (cs : List Char) : Option Timestamp :=
  let cs := Text.trim cs
  let clock := cs.takeWhile (!isMark ·)
  match cs.dropWhile (!isMark ·), clock.splitOn ':' with
  | _ :: millis, [hours, minutes, seconds] => do
    let hours ← Text.unsigned? (twoTo 64) hours
    let minutes ← Text.unsigned? (twoTo 64) minutes
    let seconds ← Text.unsigned? (twoTo 64) seconds
    if millis.length = 3 then
      ofClock? hours minutes seconds (← Text.unsigned? (twoTo 64) millis)
    else none
  | _, _ => none

end Timestamp

end TrackSelect
