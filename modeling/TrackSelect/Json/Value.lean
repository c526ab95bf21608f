import TrackSelect.Binary64.Basic
import TrackSelect.Keyed

/-!
# JSON values

`Json` is what a JSON text means. A whole number that fits 64 bits is kept as it is; every other
number is the binary64 number next to it.
-/

namespace TrackSelect

/-- A number of a JSON text. -/
inductive Json.Number where
  /-- A whole number from 0 to `2 ^ 64 - 1`. -/
  | natural (n : Nat)
  /-- The whole number `-n`, for `n` from 1 to `2 ^ 63`. -/
  | negative (n : Nat)
  | float (x : Binary64)
deriving DecidableEq, Repr

/-- A JSON value. The members of an object are a keyed list (`Keyed`). -/
inductive Json where
  | null
  | bool (b : Bool)
  | number (n : Json.Number)
  | string (text : String)
  | array (items : List Json)
  | object (fields : List (String × Json))
deriving Repr

namespace Json

/-- The text of a string value. -/
def string? : Json → Option String
  | string text => some text
  | _ => none

end Json

end TrackSelect
