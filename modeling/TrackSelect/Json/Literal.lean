import TrackSelect.Json.Number
import TrackSelect.Text.Numeral

/-!
# JSON texts

`Literal` is the shape of a JSON text; a literal need not have a value, since a string may hold
half a surrogate pair and a number may lie beyond the binary64 range. `Literal.read?` reads a
whole text, and `Literal.value?` gives its value if every part has one and the nesting is not too
deep.
-/

namespace TrackSelect.Json

/-- What was written. A string or a key is `none` when its escapes name half a surrogate pair, a
number when it is out of range. -/
inductive Literal where
  | null
  | bool (b : Bool)
  | number (n : Option Number)
  | string (text : Option String)
  | array (items : List Literal)
  | object (fields : List (Option String × Literal))

namespace Literal

/-- The white space between tokens. -/
def isSpace (c : Char) : Bool := c = ' ' || c = '\t' || c = '\n' || c = '\r'

def skipSpace (cs : List Char) : List Char := cs.dropWhile isSpace

/-- The code unit of four hexadecimal digits, and the text behind them. -/
def hexUnit? : List Char → Option (Nat × List Char)
  | a :: b :: c :: d :: rest => do
    let a ← Text.hexDigit? a
    let b ← Text.hexDigit? b
    let c ← Text.hexDigit? c
    let d ← Text.hexDigit? d
    some (((a * 16 + b) * 16 + c) * 16 + d, rest)
  | _ => none

/-- The character of a one-letter escape. -/
def shortEscape? : Char → Option Char
  | '"' => some '"'
  | '\\' => some '\\'
  | '/' => some '/'
  | 'b' => some '\x08'
  | 'f' => some '\x0c'
  | 'n' => some '\n'
  | 'r' => some '\r'
  | 't' => some '\t'
  | _ => none

/-- Join the code points of a string: two halves of a surrogate pair that follow each other are
one character, and a half that stands alone is none. -/
def joinUnits : List Nat → Option (List Char)
  | [] => some []
  | n :: rest =>
    if 0xDC00 ≤ n && n ≤ 0xDFFF then none
    else if 0xD800 ≤ n && n ≤ 0xDBFF then
      match rest with
      | [] => none
      | m :: rest =>
        if 0xDC00 ≤ m && m ≤ 0xDFFF then
          (joinUnits rest).map (Char.ofNat (0x10000 + (n - 0xD800) * 0x400 + (m - 0xDC00)) :: ·)
        else none
    else (joinUnits rest).map (Char.ofNat n :: ·)

/-- The code points of a string up to its closing quote, in reverse, and the text behind it. -/
def stringUnits? (fuel : Nat) (units : List Nat) : List Char → Option (List Nat × List Char)
  | [] => none
  | '"' :: rest => some (units.reverse, rest)
  | '\\' :: 'u' :: rest =>
    match fuel, hexUnit? rest with
    | fuel + 1, some (n, rest) => stringUnits? fuel (n :: units) rest
    | _, _ => none
  | '\\' :: c :: rest =>
    match fuel, shortEscape? c with
    | fuel + 1, some c => stringUnits? fuel (c.toNat :: units) rest
    | _, _ => none
  | c :: rest =>
    match fuel with
    | fuel + 1 =>
      if c.toNat < 0x20 || c = '\\' then none else stringUnits? fuel (c.toNat :: units) rest
    | 0 => none

/-- The text behind an opening quote: the string, if it is one, and what follows it. -/
def stringBody? (cs : List Char) : Option (Option String × List Char) :=
  (stringUnits? cs.length [] cs).map fun (units, rest) =>
    ((joinUnits units).map String.ofList, rest)

/-- At least one digit, and the text behind the digits. -/
def digits? (cs : List Char) : Option (List Char × List Char) :=
  let ds := cs.takeWhile Char.isDigit
  if ds = [] then none else some (ds, cs.dropWhile Char.isDigit)

/-- A number, and the text behind it. -/
def number? (cs : List Char) : Option (Option Number × List Char) := do
  let (negative, cs) := match cs with
    | '-' :: rest => (true, rest)
    | _ => (false, cs)
  let (whole, cs) ← digits? cs
  if whole.head? = some '0' && whole.length != 1 then none else
  let (fraction, cs) ← match cs with
    | '.' :: rest => digits? rest
    | _ => some ([], cs)
  let (exponent, cs) ← match cs with
    | c :: rest =>
      if c = 'e' || c = 'E' then
        let (down, rest) := match rest with
          | '-' :: rest => (true, rest)
          | '+' :: rest => (false, rest)
          | _ => (false, rest)
        (digits? rest).map fun (ds, rest) => (some (down, ds), rest)
      else some (none, cs)
    | [] => some (none, cs)
  some (NumberText.value? ⟨negative, whole, fraction, exponent⟩, cs)

mutual

/-- One value, behind white space, and the text behind it. -/
def value (fuel : Nat) (cs : List Char) : Option (Literal × List Char) :=
  match fuel with
  | 0 => none
  | fuel + 1 =>
    match skipSpace cs with
    | 'n' :: 'u' :: 'l' :: 'l' :: rest => some (null, rest)
    | 't' :: 'r' :: 'u' :: 'e' :: rest => some (bool true, rest)
    | 'f' :: 'a' :: 'l' :: 's' :: 'e' :: rest => some (bool false, rest)
    | '"' :: rest => (stringBody? rest).map fun (text, rest) => (string text, rest)
    | '[' :: rest =>
      match skipSpace rest with
      | ']' :: rest => some (array [], rest)
      | _ => (elements fuel rest).map fun (items, rest) => (array items, rest)
    | '{' :: rest =>
      match skipSpace rest with
      | '}' :: rest => some (object [], rest)
      | _ => (members fuel rest).map fun (fields, rest) => (object fields, rest)
    | rest => (number? rest).map fun (n, rest) => (number n, rest)

/-- The elements of an array, with its closing bracket. -/
def elements (fuel : Nat) (cs : List Char) : Option (List Literal × List Char) :=
  match fuel with
  | 0 => none
  | fuel + 1 => do
    let (item, rest) ← value fuel cs
    match skipSpace rest with
    | ',' :: rest => (elements fuel rest).map fun (items, rest) => (item :: items, rest)
    | ']' :: rest => some ([item], rest)
    | _ => none

/-- The members of an object, with its closing brace. -/
def members (fuel : Nat) (cs : List Char) : Option (List (Option String × Literal) × List Char) :=
  match fuel with
  | 0 => none
  | fuel + 1 =>
    match skipSpace cs with
    | '"' :: rest => do
      let (key, rest) ← stringBody? rest
      match skipSpace rest with
      | ':' :: rest =>
        let (item, rest) ← value fuel rest
        match skipSpace rest with
        | ',' :: rest => (members fuel rest).map fun (fields, rest) => ((key, item) :: fields, rest)
        | '}' :: rest => some ([(key, item)], rest)
        | _ => none
      | _ => none
    | _ => none

end

/-- A whole text: one value with nothing but white space around it. -/
def read? (text : String) : Option Literal :=
  match value (text.length + 1) text.toList with
  | some (literal, rest) => if skipSpace rest = [] then some literal else none
  | none => none

mutual

/-- The value of a literal whose arrays and objects are nested at most `levels` deep. Of two
members with one key the later counts. -/
def value? (levels : Nat) : Literal → Option Json
  | null => some .null
  | bool b => some (.bool b)
  | number n => n.map .number
  | string text => text.map .string
  | array items =>
    match levels with
    | 0 => none
    | levels + 1 => (values? levels items).map .array
  | object fields =>
    match levels with
    | 0 => none
    | levels + 1 => (memberValues? levels fields).map fun pairs => .object (Keyed.ofList pairs)

def values? (levels : Nat) : List Literal → Option (List Json)
  | [] => some []
  | item :: rest => do
    let item ← value? levels item
    let rest ← values? levels rest
    some (item :: rest)

def memberValues? (levels : Nat) : List (Option String × Literal) → Option (List (String × Json))
  | [] => some []
  | (key, item) :: rest => do
    let key ← key
    let item ← value? levels item
    let rest ← memberValues? levels rest
    some ((key, item) :: rest)

end

end Literal

end TrackSelect.Json
