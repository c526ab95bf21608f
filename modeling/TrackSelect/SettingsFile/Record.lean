import TrackSelect.Toml.Value

/-!
# Records in TOML

A record has named fields. It stands in a TOML text as a table with the names for keys, other keys
counting for nothing, or as an array of the fields' values in order. A date-time is a record as
the table that stands for it.
-/

namespace TrackSelect.Toml

def isRecord : Toml → Bool
  | table _ => true
  | datetime _ => true
  | array _ => true
  | _ => false

/-- The value of a record's field, by its place in an array or by its name. -/
def field? (value : Toml) (place : Nat) (name : String) : Option Toml :=
  match value with
  | array items => items[place]?
  | _ => value.entries?.bind (·.lookup name)

/-! ### Kinds of values -/

def natural? (bound : Nat) : Toml → Option Nat
  | integer n => if 0 ≤ n && n < bound then some n.toNat else none
  | _ => none

/-- A list of things that are read one by one. -/
def list? {α : Type} (read? : Toml → Option α) : Toml → Option (List α)
  | array items => items.mapM read?
  | _ => none

/-! ### Fields that may be missing -/

variable {α : Type}

/-- A field that may be missing, but not be anything else. -/
def optional? (read? : Toml → Option α) : Option Toml → Option (Option α)
  | none => some none
  | some value => (read? value).map some

/-- A list that may be missing, and is empty then. -/
def listOrNone? (read? : Toml → Option α) : Option Toml → Option (List α)
  | none => some []
  | some value => list? read? value

end TrackSelect.Toml
