import TrackSelect.Binary64.Shortest
import TrackSelect.Toml.Quoted
import TrackSelect.Toml.Value

/-!
# TOML output

`Toml.text` is a value on one line, for messages. `document` is a whole text: the entries of each
table under its header, tables and arrays of tables behind plain values, a blank line before every
header but the first, and each item of a longer array on a line of its own.
-/

namespace TrackSelect.Toml

/-! ### Values -/

/-- A binary64 number: the fewest digits that read back, with a point. A tie between two such goes
away from zero. NaN has no sign. -/
def floatText (x : Binary64) : List Char :=
  if x.isNaN then "nan".toList else
  let sign := if x.isNegative then ['-'] else []
  if x.isFinite then
    let (ds, first) := x.shortest .away
    sign ++ Binary64.plain ds first
  else sign ++ "inf".toList

def integerText (n : Int) : List Char :=
  (if n < 0 then ['-'] else []) ++ Text.digits n.natAbs

/-- Items between brackets. With `spread` two or more of them stand on lines of their own. -/
def arrayText (spread : Bool) (items : List (List Char)) : List Char :=
  if spread && 2 ≤ items.length then
    '[' :: items.flatMap (fun item => "\n    ".toList ++ item ++ [',']) ++ ['\n', ']']
  else '[' :: [',', ' '].intercalate items ++ [']']

/-- Entries between braces. -/
def inlineTableText (entries : List (List Char)) : List Char :=
  if entries = [] then ['{', '}'] else ['{', ' '] ++ [',', ' '].intercalate entries ++ [' ', '}']

def entryText (key : String) (value : List Char) : List Char :=
  keyText key ++ [' ', '=', ' '] ++ value

mutual

/-- A value as it stands behind a key. -/
def valueText (spread : Bool) : Toml → List Char
  | string text => stringText text
  | integer n => integerText n
  | float x => floatText x
  | boolean b => (if b then "true" else "false").toList
  | datetime d => d.text
  | array items => arrayText spread (itemTexts spread items)
  | table entries => inlineTableText (entryTexts spread entries)

def itemTexts (spread : Bool) : List Toml → List (List Char)
  | [] => []
  | item :: rest => valueText spread item :: itemTexts spread rest

def entryTexts (spread : Bool) : List (String × Toml) → List (List Char)
  | [] => []
  | (key, value) :: rest => entryText key (valueText spread value) :: entryTexts spread rest

end

/-- A value on one line. A date-time is shown as the table that stands for it. -/
def text (value : Toml) : String :=
  let shown := match value with
    | datetime d => table [(datetimeKey, string (String.ofList d.text))]
    | _ => value
  String.ofList (valueText false shown)

/-! ### Documents -/

/-- Whether a value has headers of its own in a document. -/
def hasHeaders : Toml → Bool
  | table _ => true
  | array items => !items.isEmpty && items.all isTable
  | _ => false

/-- The lines of the entries of a table that have no headers. -/
def plainLines (entries : List (String × Toml)) : List Char :=
  (entries.filter (!·.2.hasHeaders)).flatMap fun (key, value) =>
    entryText key (valueText true value) ++ ['\n']

def pathText (path : List String) : List Char := ['.'].intercalate (path.map keyText)

/-- The part of a document for one table: its header and its plain lines. A table that has nothing
but tables needs no part. -/
def tablePart (path : List String) (entries : List (String × Toml)) : List (List Char) :=
  let lines := plainLines entries
  if lines = [] && !entries.isEmpty then [] else ['[' :: pathText path ++ [']', '\n'] ++ lines]

/-- The part for one item of an array of tables. -/
def itemPart (path : List String) (entries : List (String × Toml)) : List Char :=
  ['[', '['] ++ pathText path ++ [']', ']', '\n'] ++ plainLines entries

mutual

/-- The parts for what stands at a path. -/
def parts (path : List String) : Toml → List (List Char)
  | table entries => tablePart path entries ++ innerParts path entries
  | array items => if !items.isEmpty && items.all isTable then itemParts path items else []
  | _ => []

/-- The parts for the entries of the table at a path. -/
def innerParts (path : List String) : List (String × Toml) → List (List Char)
  | [] => []
  | (key, value) :: rest => parts (path ++ [key]) value ++ innerParts path rest

/-- The parts for the items of the array of tables at a path. -/
def itemParts (path : List String) : List Toml → List (List Char)
  | [] => []
  | table entries :: rest => itemPart path entries :: innerParts path entries ++ itemParts path rest
  | _ :: rest => itemParts path rest

end

/-- The text of a document with these entries. -/
def document (entries : List (String × Toml)) : String :=
  let lines := plainLines entries
  let top := if lines = [] then [] else [lines]
  String.ofList (['\n'].intercalate (top ++ innerParts [] entries))

end TrackSelect.Toml
