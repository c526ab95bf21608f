import TrackSelect.Text.Numeral

/-!
# Strings and keys of TOML

A string is written in the first of the four forms that shows it as it is: in double quotes, in
single quotes, and then the same on several lines. A string that no form shows as it is has
escapes between double quotes. `form` chooses; `stringText` and `keyText` write.
-/

namespace TrackSelect.Toml

/-- The forms of a string. -/
inductive Form where
  /-- In double quotes, with escapes. -/
  | basic
  /-- In single quotes, as it is. -/
  | literal
  /-- In three double quotes, on several lines perhaps. -/
  | longBasic
  /-- In three single quotes, on several lines perhaps. -/
  | longLiteral
deriving DecidableEq, Repr

/-- A character that has no written form but an escape. -/
def isHidden (c : Char) : Bool := c.toNat < 0x20 && c != '\t' && c != '\n' || c.toNat = 0x7F

/-- The length of the longest run of a character. -/
def longestRun (c : Char) (cs : List Char) : Nat :=
  (cs.foldl (fun (run, longest) d =>
    if d = c then (run + 1, max longest (run + 1)) else (0, longest)) (0, 0)).2

/-- The form that a string is written in. -/
def form (cs : List Char) : Form :=
  let breaks := cs.contains '\n'
  let backslashes := cs.contains '\\'
  let quotes := longestRun '"' cs
  let singles := longestRun '\'' cs
  if cs.any isHidden then if breaks then .longBasic else .basic
  else if !backslashes && quotes = 0 && !breaks then .basic
  else if singles = 0 && !breaks then .literal
  else if !backslashes && quotes ≤ 2 then .longBasic
  else if singles ≤ 2 then .longLiteral
  else if breaks then .longBasic
  else .basic

/-- The escape of a code point below `2 ^ 16`, in four hexadecimal digits. -/
def unicodeEscape (c : Char) : List Char :=
  ['\\', 'u'] ++ ((Nat.toDigits 16 c.toNat).map Char.toUpper).leftpad 4 '0'

/-- A character other than a double quote, as it stands between double quotes. A line break needs
no escape where there may be several lines. -/
def escapedChar (long : Bool) (c : Char) : List Char :=
  match c with
  | '\x08' => ['\\', 'b']
  | '\t' => ['\\', 't']
  | '\n' => if long then ['\n'] else ['\\', 'n']
  | '\x0c' => ['\\', 'f']
  | '\r' => ['\\', 'r']
  | '\\' => ['\\', '\\']
  | _ => if isHidden c then unicodeEscape c else [c]

/-- Text between double quotes; `run` double quotes were just written. Where there may be several
lines two of them may follow each other as they are. -/
def escaped (long : Bool) (run : Nat) : List Char → List Char
  | [] => []
  | c :: rest =>
    if c = '"' then
      if run < (if long then 2 else 0) then '"' :: escaped long (run + 1) rest
      else '\\' :: '"' :: escaped long 0 rest
    else escapedChar long c ++ escaped long 0 rest

/-- Text between two equal marks. -/
def between (mark : List Char) (cs : List Char) : List Char := mark ++ cs ++ mark

/-- What stands before a text that may have several lines: a line break, if it has. -/
def leadingBreak (cs : List Char) : List Char := if cs.contains '\n' then ['\n'] else []

/-- A string in one of the forms. -/
def writeAs (cs : List Char) : Form → List Char
  | .basic => between ['"'] (escaped false 0 cs)
  | .literal => between ['\''] cs
  | .longBasic => between ['"', '"', '"'] (leadingBreak cs ++ escaped true 0 cs)
  | .longLiteral => between ['\'', '\'', '\''] (leadingBreak cs ++ cs)

def stringText (text : String) : List Char := writeAs text.toList (form text.toList)

/-- A character of a key that needs no quotes. -/
def isBare (c : Char) : Bool := c.isAlphanum || c = '-' || c = '_'

/-- A key: bare if it can be, else in double quotes, or in single quotes where these save all
escapes. -/
def keyText (key : String) : List Char :=
  let cs := key.toList
  if cs != [] && cs.all isBare then cs
  else if cs.any isHidden || cs.contains '\n' || cs.contains '\'' then writeAs cs .basic
  else if cs.contains '"' || cs.contains '\\' then writeAs cs .literal
  else writeAs cs .basic

end TrackSelect.Toml
