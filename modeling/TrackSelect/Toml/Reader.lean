import TrackSelect.Toml.Quoted
import TrackSelect.Toml.Scalar
import TrackSelect.Toml.Tables

/-!
# Reading TOML

A TOML text is a sequence of statements, each on its own line: entries and headers. `statements?`
finds them, and `Draft.extend` adds one to the tables that have grown so far. `Toml.read?` is the
top table of a whole text.
-/

namespace TrackSelect.Toml

/-- Skip white space, line breaks and comments between the items of an array. -/
def skipGaps (inComment : Bool) : List Char → List Char
  | '\r' :: '\n' :: rest => skipGaps false rest
  | c :: rest =>
    if c = '\n' then skipGaps false rest
    else if inComment then if isPlain c then skipGaps true rest else c :: rest
    else if isSpace c then skipGaps false rest
    else if c = '#' then skipGaps true rest
    else c :: rest
  | [] => []

/-! ### Keys -/

/-- One part of a key: bare or quoted. -/
def keyPart? : List Char → Option (String × List Char)
  | '"' :: rest => basicBody? [] rest
  | '\'' :: rest => literalBody? [] rest
  | cs =>
    let name := cs.takeWhile isBare
    if name = [] then none else some (String.ofList name, cs.dropWhile isBare)

/-- A key of at most `parts` parts with points between them: the leading parts and the last. -/
def dottedKey? (parts : Nat) (cs : List Char) : Option ((List String × String) × List Char) :=
  match parts with
  | 0 => none
  | parts + 1 => do
    let (part, rest) ← keyPart? (skipSpace cs)
    match skipSpace rest with
    | '.' :: rest =>
      (dottedKey? parts rest).map fun ((path, key), rest) => ((part :: path, key), rest)
    | rest => some (([], part), rest)

/-- The most parts that a key may have, and the most arrays and tables that may be nested in a
value. -/
def depthLimit : Nat := 79

/-! ### Values -/

mutual

/-- A value in which arrays and tables are nested at most `levels` deep. -/
def value? (fuel levels : Nat) (cs : List Char) : Option (Toml × List Char) :=
  match fuel with
  | 0 => none
  | fuel + 1 =>
    match cs with
    | '[' :: rest =>
      match levels with
      | 0 => none
      | levels + 1 => (items? fuel levels rest).map fun (items, rest) => (.array items, rest)
    | '{' :: rest =>
      match levels with
      | 0 => none
      | levels + 1 =>
        match skipSpace rest with
        | '}' :: rest => some (.table [], rest)
        | rest =>
          (pairs? fuel levels [] rest).map fun (entries, rest) =>
            (.table (grownEntries entries), rest)
    | cs => scalar? cs

/-- The items of an array, with its closing bracket. -/
def items? (fuel levels : Nat) (cs : List Char) : Option (List Toml × List Char) :=
  match fuel with
  | 0 => none
  | fuel + 1 =>
    match skipGaps false cs with
    | ']' :: rest => some ([], rest)
    | cs => do
      let (item, rest) ← value? fuel levels cs
      match skipGaps false rest with
      | ',' :: rest => (items? fuel levels rest).map fun (items, rest) => (item :: items, rest)
      | ']' :: rest => some ([item], rest)
      | _ => none

/-- The entries of a table in braces, added to those before them, with the closing brace. -/
def pairs? (fuel levels : Nat) (entries : Growing) (cs : List Char) :
    Option (Growing × List Char) :=
  match fuel with
  | 0 => none
  | fuel + 1 => do
    let ((path, key), rest) ← dottedKey? depthLimit cs
    let (v, rest) ← value? fuel levels (skipSpace (← after? '=' rest))
    let entries ← entries.set path key v
    match skipSpace rest with
    | ',' :: rest => pairs? fuel levels entries rest
    | '}' :: rest => some (entries, rest)
    | _ => none

end

/-! ### Statements -/

inductive Statement where
  /-- An entry of the open table, under a key of which `path` are the leading parts. -/
  | entry (path : List String) (key : String) (value : Toml)
  /-- The header of a table. -/
  | header (path : List String) (key : String)
  /-- The header of the next item of an array of tables. -/
  | item (path : List String) (key : String)

/-- The text behind the end of a line, before which white space and a comment may stand. -/
def afterLine? (cs : List Char) : Option (List Char) :=
  let rest := match skipSpace cs with
    | '#' :: rest => rest.dropWhile isPlain
    | rest => rest
  if rest = [] then some [] else afterBreak? rest

/-- A statement, and the text behind it on its line. -/
def statement? : List Char → Option (Statement × List Char)
  | '[' :: '[' :: rest => do
    let ((path, key), rest) ← dottedKey? depthLimit rest
    some (.item path key, ← after? ']' (← after? ']' rest))
  | '[' :: rest => do
    let ((path, key), rest) ← dottedKey? depthLimit rest
    some (.header path key, ← after? ']' rest)
  | cs => do
    let ((path, key), rest) ← dottedKey? depthLimit cs
    let (v, rest) ← value? (cs.length + 1) depthLimit (skipSpace (← after? '=' rest))
    some (.entry path key v, rest)

/-- The statements of a text; each line takes at least one unit of fuel. -/
def statements? (fuel : Nat) (cs : List Char) : Option (List Statement) :=
  match fuel with
  | 0 => none
  | fuel + 1 =>
    if cs = [] then some [] else
    match afterLine? cs with
    | some rest => statements? fuel rest
    | none => do
      let (statement, rest) ← statement? (skipSpace cs)
      let more ← statements? fuel (← afterLine? rest)
      some (statement :: more)

/-! ### Documents -/

/-- What has been read of a document: its top table, and the path of the open table. -/
structure Draft where
  top : Growing
  opened : List String

namespace Draft

def empty : Draft := ⟨[], []⟩

def extend (draft : Draft) : Statement → Option Draft
  | .entry path key v =>
    (Growing.within (Growing.set path key v) draft.opened draft.top).map fun top =>
      ⟨top, draft.opened⟩
  | .header path key =>
    (Growing.within (Growing.openTable key) path draft.top).map fun top => ⟨top, path ++ [key]⟩
  | .item path key =>
    (Growing.within (Growing.openItem key) path draft.top).map fun top => ⟨top, path ++ [key]⟩

end Draft

/-- The text behind a byte order mark, if it starts with one. -/
def dropMark : List Char → List Char
  | c :: rest => if c = '\ufeff' then rest else c :: rest
  | [] => []

/-- The top table of a text. -/
def read? (text : String) : Option Toml := do
  let cs := dropMark text.toList
  let statements ← statements? (cs.length + 1) cs
  let draft ← statements.foldlM Draft.extend Draft.empty
  some (.table (grownEntries draft.top))

end TrackSelect.Toml
