import TrackSelect.Binary64.Basic
import TrackSelect.Keyed
import TrackSelect.Toml.Datetime

/-!
# TOML values

`Toml` is what a TOML text means. A table lists its entries in the order in which they were first
named. Where a table without an order of its own is asked for, `byKey?` sorts it.
-/

namespace TrackSelect

/-- A TOML value; whole numbers have 64 bits. -/
inductive Toml where
  | string (text : String)
  | integer (n : Int)
  | float (x : Binary64)
  | boolean (b : Bool)
  | datetime (d : Toml.Datetime)
  | array (items : List Toml)
  | table (entries : List (String × Toml))
deriving Repr

namespace Toml

/-- The text of a string value. -/
def string? : Toml → Option String
  | string text => some text
  | _ => none

def isTable : Toml → Bool
  | table _ => true
  | _ => false

/-- The key that marks a date-time where a table has to stand for it. -/
def datetimeKey : String := "$__toml_private_datetime"

/-- The entries of a table, or the one entry that stands for a date-time. -/
def entries? : Toml → Option (List (String × Toml))
  | table entries => some entries
  | datetime d => some [(datetimeKey, string (String.ofList d.text))]
  | _ => none

/-- The strings of an array of strings. -/
def strings? : Toml → Option (List String)
  | array items => items.mapM string?
  | _ => none

mutual

/-- The value with the entries of its tables sorted by key, and a table whose first key marks a
date-time replaced by that date-time, if it is one. -/
def byKey? : Toml → Option Toml
  | array items => (itemsByKey? items).map array
  | table entries =>
    let sorted := (entriesByKey? entries).map fun sorted => table (Keyed.ofList sorted)
    match entries with
    | (key, string text) :: _ =>
      if key = datetimeKey then (Datetime.read? text).map datetime else sorted
    | (key, _) :: _ => if key = datetimeKey then none else sorted
    | [] => some (table [])
  | string text => some (string text)
  | integer n => some (integer n)
  | float x => some (float x)
  | boolean b => some (boolean b)
  | datetime d => some (datetime d)

def itemsByKey? : List Toml → Option (List Toml)
  | [] => some []
  | item :: rest => do
    let item ← byKey? item
    let rest ← itemsByKey? rest
    some (item :: rest)

def entriesByKey? : List (String × Toml) → Option (List (String × Toml))
  | [] => some []
  | (key, value) :: rest => do
    let value ← byKey? value
    let rest ← entriesByKey? rest
    some ((key, value) :: rest)

end

end Toml

end TrackSelect
