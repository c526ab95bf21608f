import TrackSelect.Text.Numeral

/-!
# Dates and times

A date-time is a day of the calendar, a time of day, or both, and then perhaps with its distance
from universal time. `Datetime.text` writes it, `Datetime.scan?` reads it from the front of a text.
-/

namespace TrackSelect.Toml

structure Date where
  year : Nat
  month : Nat
  day : Nat
deriving DecidableEq, Repr

structure Time where
  hour : Nat
  minute : Nat
  second : Nat
  nanosecond : Nat
deriving DecidableEq, Repr

/-- How far a clock is ahead of universal time. -/
inductive Zone where
  /-- Universal time itself. -/
  | universal
  | ahead (minutes : Int)
deriving DecidableEq, Repr

inductive Datetime where
  | date (date : Date)
  | time (time : Time)
  | moment (date : Date) (time : Time) (zone : Option Zone)
deriving DecidableEq, Repr

/-! ### Writing -/

namespace Date

def text (d : Date) : List Char :=
  Text.padded 4 d.year ++ '-' :: Text.padded 2 d.month ++ '-' :: Text.padded 2 d.day

end Date

namespace Time

/-- The fraction of a second, without the zeros at its end. -/
def fraction (nanosecond : Nat) : List Char :=
  if nanosecond = 0 then []
  else '.' :: ((Text.padded 9 nanosecond).reverse.dropWhile (· == '0')).reverse

def text (t : Time) : List Char :=
  Text.padded 2 t.hour ++ ':' :: Text.padded 2 t.minute ++ ':' :: Text.padded 2 t.second
    ++ fraction t.nanosecond

end Time

namespace Zone

def text : Zone → List Char
  | universal => ['Z']
  | ahead minutes =>
    (if minutes < 0 then '-' else '+') :: Text.padded 2 (minutes.natAbs / 60)
      ++ ':' :: Text.padded 2 (minutes.natAbs % 60)

end Zone

namespace Datetime

def text : Datetime → List Char
  | date d => d.text
  | time t => t.text
  | moment d t zone => d.text ++ 'T' :: t.text ++ (zone.map Zone.text).getD []

end Datetime

/-! ### Reading -/

/-- A number of two digits that is at most `bound`, and the text behind it. -/
def twoDigits? (bound : Nat) : List Char → Option (Nat × List Char)
  | a :: b :: rest => ((Text.natural? [a, b]).filter (· ≤ bound)).map (·, rest)
  | _ => none

/-- The text behind a character that has to come first. -/
def after? (c : Char) : List Char → Option (List Char)
  | d :: rest => if d = c then some rest else none
  | [] => none

namespace Date

def isLeap (year : Nat) : Bool := year % 4 == 0 && (year % 100 != 0 || year % 400 == 0)

def daysIn (year month : Nat) : Nat :=
  if month = 2 then if isLeap year then 29 else 28
  else if month = 4 || month = 6 || month = 9 || month = 11 then 30
  else 31

/-- A day of the calendar, and the text behind it. -/
def scan? : List Char → Option (Date × List Char)
  | a :: b :: c :: d :: rest => do
    let year ← Text.natural? [a, b, c, d]
    let (month, rest) ← twoDigits? 12 (← after? '-' rest)
    let (day, rest) ← twoDigits? (daysIn year month) (← after? '-' rest)
    if month = 0 || day = 0 then none else some (⟨year, month, day⟩, rest)
  | _ => none

end Date

namespace Time

/-- The nanoseconds of a fraction behind its point; digits after the ninth are dropped. -/
def nanoseconds (ds : List Char) : Nat :=
  Nat.ofDigitChars 10 ((ds.take 9).rightpad 9 '0') 0

/-- The fraction of a second, if there is one, and the text behind it. -/
def scanFraction : List Char → Nat × List Char
  | '.' :: rest =>
    let ds := rest.takeWhile Char.isDigit
    if ds = [] then (0, '.' :: rest) else (nanoseconds ds, rest.dropWhile Char.isDigit)
  | cs => (0, cs)

/-- A time of day, with a leap second perhaps, and the text behind it. -/
def scan? (cs : List Char) : Option (Time × List Char) := do
  let (hour, rest) ← twoDigits? 23 cs
  let (minute, rest) ← twoDigits? 59 (← after? ':' rest)
  let (second, rest) ← twoDigits? 60 (← after? ':' rest)
  let (nanosecond, rest) := scanFraction rest
  some (⟨hour, minute, second, nanosecond⟩, rest)

end Time

namespace Zone

/-- The zone behind a time of day, if one is given, and the text behind it. -/
def scan? : List Char → Option (Option Zone × List Char)
  | [] => some (none, [])
  | c :: rest =>
    if c = 'Z' || c = 'z' then some (some universal, rest)
    else if c = '+' || c = '-' then do
      let (hours, rest) ← twoDigits? 23 rest
      let (minutes, rest) ← twoDigits? 59 (← after? ':' rest)
      let total : Int := hours * 60 + minutes
      some (some (.ahead (if c = '-' then -total else total)), rest)
    else some (none, c :: rest)

end Zone

namespace Datetime

/-- Whether a text goes on like a time of day: two digits and a colon. -/
def goesOn : List Char → Bool
  | a :: b :: ':' :: _ => a.isDigit && b.isDigit
  | _ => false

/-- A date-time, and the text behind it. A time of day stands behind its date after a `T` or one
space. -/
def scan? (cs : List Char) : Option (Datetime × List Char) :=
  match Date.scan? cs with
  | none => (Time.scan? cs).map fun (t, rest) => (time t, rest)
  | some (d, rest) =>
    match rest with
    | [] => some (date d, [])
    | c :: behind =>
      if (c = 'T' || c = 't' || c = ' ') && goesOn behind then do
        let (t, rest) ← Time.scan? behind
        let (zone, rest) ← Zone.scan? rest
        some (moment d t zone, rest)
      else some (date d, rest)

/-- The date-time a whole text stands for. -/
def read? (text : String) : Option Datetime :=
  match scan? text.toList with
  | some (d, []) => some d
  | _ => none

end Datetime

end TrackSelect.Toml
