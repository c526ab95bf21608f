import TrackSelect.Binary64.Shortest
import TrackSelect.Json.Value

/-!
# JSON output

JSON values as indented text: two spaces for each level, a line for each element and each member,
nothing between the brackets of what is empty. Binary64 numbers have the fewest digits that read
back, a tie between two such going to the even one, with a point for decimal exponents from -5 to 15
and in scientific notation beyond; a number that is not finite is `null`.
-/

namespace TrackSelect.Json

/-- One character of a string. -/
def escaped (c : Char) : List Char :=
  match c with
  | '"' => ['\\', '"']
  | '\\' => ['\\', '\\']
  | '\x08' => ['\\', 'b']
  | '\x0c' => ['\\', 'f']
  | '\n' => ['\\', 'n']
  | '\r' => ['\\', 'r']
  | '\t' => ['\\', 't']
  | _ =>
    if c.toNat < 0x20 then ['\\', 'u'] ++ (Nat.toDigits 16 c.toNat).leftpad 4 '0' else [c]

def stringText (text : String) : List Char := '"' :: text.toList.flatMap escaped ++ ['"']

/-- The decimal exponents of numbers that are written with a point. -/
def isPlain (first : Int) : Bool := -5 ≤ first && first ≤ 15

def floatText (x : Binary64) : List Char :=
  if !x.isFinite then "null".toList else
  let (ds, first) := x.shortest .toEven
  let sign := if x.isNegative then ['-'] else []
  sign ++ if isPlain first then Binary64.plain ds first else Binary64.scientific ds first

def numberText : Number → List Char
  | .natural n => Nat.toDigits 10 n
  | .negative n => '-' :: Nat.toDigits 10 n
  | .float x => floatText x

/-- A line break with the indentation of a level. -/
def newline (level : Nat) : List Char := '\n' :: List.replicate (2 * level) ' '

/-- Items between brackets, each on a line of its own. -/
def block (level : Nat) (opening closing : Char) : List (List Char) → List Char
  | [] => [opening, closing]
  | items =>
    let line := newline (level + 1)
    opening :: line ++ (',' :: line).intercalate items ++ newline level ++ [closing]

mutual

/-- The text of a value at a level. -/
def prettyAt (level : Nat) : Json → List Char
  | null => "null".toList
  | bool b => (if b then "true" else "false").toList
  | number n => numberText n
  | string text => stringText text
  | array items => block level '[' ']' (prettyItems (level + 1) items)
  | object fields => block level '{' '}' (prettyMembers (level + 1) fields)

def prettyItems (level : Nat) : List Json → List (List Char)
  | [] => []
  | item :: rest => prettyAt level item :: prettyItems level rest

def prettyMembers (level : Nat) : List (String × Json) → List (List Char)
  | [] => []
  | (key, item) :: rest =>
    (stringText key ++ [':', ' '] ++ prettyAt level item) :: prettyMembers level rest

end

/-- The text of a value. -/
def pretty (json : Json) : String := String.ofList (prettyAt 0 json)

end TrackSelect.Json
