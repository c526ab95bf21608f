import TrackSelect.Toml.Value

/-!
# Growing tables

A TOML text names its tables piece by piece: by headers, by longer headers that go through them,
and by dotted keys. `Branch` is a table while it grows; it remembers how each table was named,
because a table has one header at most and a dotted key does not reach into a table that has one.
-/

namespace TrackSelect.Toml

/-- How a table was named. -/
inductive Naming where
  /-- By a header of its own, or as an item of an array of tables. -/
  | header
  /-- Only by the longer header of a table inside it. -/
  | passed
  /-- By dotted keys. -/
  | dotted
deriving DecidableEq, Repr

/-- What a key of a growing table stands for. -/
inductive Branch where
  /-- A value, an inline table for instance, which does not grow any more. -/
  | value (v : Toml)
  | table (naming : Naming) (entries : List (String × Branch))
  /-- An array of tables: the items before the last, and the last, which may grow. -/
  | tables (earlier : List (List (String × Branch))) (last : List (String × Branch))

/-- The entries of a growing table, in the order in which they were first named. -/
abbrev Growing := List (String × Branch)

namespace Growing

/-- Put a branch at its key: in the key's place if it has one, else at the end. -/
def put (key : String) (branch : Branch) : Growing → Growing
  | [] => [(key, branch)]
  | (k, b) :: rest => if k = key then (k, branch) :: rest else (k, b) :: put key branch rest

/-- Change the table at the end of a path of headers. Tables that are missing on the way are
passed; of an array of tables the last item is meant. -/
def within (change : Growing → Option Growing) : List String → Growing → Option Growing
  | [], entries => change entries
  | key :: path, entries =>
    match entries.lookup key with
    | none => (within change path []).map fun inner => put key (.table .passed inner) entries
    | some (.value _) => none
    | some (.table naming inner) =>
      (within change path inner).map fun inner => put key (.table naming inner) entries
    | some (.tables earlier last) =>
      (within change path last).map fun last => put key (.tables earlier last) entries

/-- Give a key that is still free its value. -/
def define (key : String) (v : Toml) (entries : Growing) : Option Growing :=
  match entries.lookup key with
  | none => some (put key (.value v) entries)
  | some _ => none

/-- Give a value to a dotted key, of which `naming` says how the table was named that its last
part belongs to. Dotted keys do not go into a table with a header. -/
def defineDotted (key : String) (v : Toml) :
    Naming → List String → Growing → Option Growing
  | naming, [], entries => if naming = .dotted then define key v entries else none
  | _, part :: path, entries =>
    match entries.lookup part with
    | none =>
      (defineDotted key v .dotted path []).map fun inner =>
        put part (.table .dotted inner) entries
    | some (.value _) => none
    | some (.table naming inner) =>
      if naming = .header then none
      else (defineDotted key v naming path inner).map fun inner =>
        put part (.table naming inner) entries
    | some (.tables earlier last) =>
      (defineDotted key v .header path last).map fun last =>
        put part (.tables earlier last) entries

/-- Give a value to a key, dotted or not. -/
def set (path : List String) (key : String) (v : Toml) (entries : Growing) : Option Growing :=
  if path = [] then define key v entries else defineDotted key v .header path entries

/-- Open the table of a header: a new one, or one that has only been passed so far. A table is
first named where it is opened, so that one goes behind the entries there are. -/
def openTable (key : String) (entries : Growing) : Option Growing :=
  match entries.lookup key with
  | none => some (put key (.table .header []) entries)
  | some (.table .passed inner) =>
    some (entries.filter (·.1 ≠ key) ++ [(key, .table .header inner)])
  | some _ => none

/-- Open the next item of an array of tables. -/
def openItem (key : String) (entries : Growing) : Option Growing :=
  match entries.lookup key with
  | none => some (put key (.tables [] []) entries)
  | some (.tables earlier last) => some (put key (.tables (earlier ++ [last]) []) entries)
  | some _ => none

end Growing

mutual

/-- The value of a branch that has stopped to grow. -/
def Branch.grown : Branch → Toml
  | .value v => v
  | .table _ entries => .table (grownEntries entries)
  | .tables earlier last => .array (grownItems earlier ++ [.table (grownEntries last)])

def grownEntries : List (String × Branch) → List (String × Toml)
  | [] => []
  | (key, branch) :: rest => (key, branch.grown) :: grownEntries rest

def grownItems : List (List (String × Branch)) → List Toml
  | [] => []
  | entries :: rest => .table (grownEntries entries) :: grownItems rest

end

end TrackSelect.Toml
