import TrackSelect.Binary64.Reading
import TrackSelect.Text.Numeral
import TrackSelect.Toml.Value

/-!
# Strings and numbers of a TOML text

Each reader takes a value from the front of a text and gives it with the text behind it. Strings
come in four forms: with escapes or literal, on one line or on several. Numbers may have
underscores between their digits.
-/

namespace TrackSelect.Toml

/-- A character that may stand in a string or a comment as it is: no control character but tab. -/
def isPlain (c : Char) : Bool := c = '\t' || (0x20 ≤ c.toNat && c.toNat != 0x7F)

def isSpace (c : Char) : Bool := c = ' ' || c = '\t'

def skipSpace (cs : List Char) : List Char := cs.dropWhile isSpace

/-- The text behind a line break. -/
def afterBreak? : List Char → Option (List Char)
  | '\n' :: rest => some rest
  | '\r' :: '\n' :: rest => some rest
  | _ => none

/-! ### Strings -/

/-- The character of a one-letter escape. -/
def shortEscape? : Char → Option Char
  | 'b' => some '\x08'
  | 't' => some '\t'
  | 'n' => some '\n'
  | 'f' => some '\x0c'
  | 'r' => some '\r'
  | '"' => some '"'
  | '\\' => some '\\'
  | _ => none

/-- The character whose code point these hexadecimal digits are. -/
def ofHex? (ds : List Char) : Option Char := do
  let n := (← ds.mapM Text.hexDigit?).foldl (fun n d => n * 16 + d) 0
  if n.isValidChar then some (Char.ofNat n) else none

/-- A string with escapes behind its opening quote; `out` is what was read of it, in reverse. -/
def basicBody? (out : List Char) : List Char → Option (String × List Char)
  | '"' :: rest => some (String.ofList out.reverse, rest)
  | '\\' :: 'u' :: a :: b :: c :: d :: rest =>
    (ofHex? [a, b, c, d]).bind fun x => basicBody? (x :: out) rest
  | '\\' :: 'U' :: a :: b :: c :: d :: e :: f :: g :: h :: rest =>
    (ofHex? [a, b, c, d, e, f, g, h]).bind fun x => basicBody? (x :: out) rest
  | '\\' :: c :: rest => (shortEscape? c).bind fun x => basicBody? (x :: out) rest
  | c :: rest => if isPlain c && c != '\\' then basicBody? (c :: out) rest else none
  | [] => none

/-- A literal string behind its opening quote. -/
def literalBody? (out : List Char) : List Char → Option (String × List Char)
  | '\'' :: rest => some (String.ofList out.reverse, rest)
  | c :: rest => if isPlain c then literalBody? (c :: out) rest else none
  | [] => none

/-- A string of several lines with escapes, behind its opening quotes. A backslash at the end of a
line leaves out the line break and the white space behind it, during which `skipping` is set. Up
to two quotes may stand right before the closing ones. -/
def longBasicBody? (skipping : Bool) (out : List Char) : List Char → Option (String × List Char)
  | '"' :: '"' :: '"' :: '"' :: '"' :: rest =>
    some (String.ofList ('"' :: '"' :: out).reverse, rest)
  | '"' :: '"' :: '"' :: '"' :: rest => some (String.ofList ('"' :: out).reverse, rest)
  | '"' :: '"' :: '"' :: rest => some (String.ofList out.reverse, rest)
  | '\\' :: 'u' :: a :: b :: c :: d :: rest =>
    (ofHex? [a, b, c, d]).bind fun x => longBasicBody? false (x :: out) rest
  | '\\' :: 'U' :: a :: b :: c :: d :: e :: f :: g :: h :: rest =>
    (ofHex? [a, b, c, d, e, f, g, h]).bind fun x => longBasicBody? false (x :: out) rest
  | '\\' :: c :: rest =>
    match shortEscape? c with
    | some x => longBasicBody? false (x :: out) rest
    | none =>
      if (afterBreak? (skipSpace (c :: rest))).isSome then longBasicBody? true out rest else none
  | '\r' :: '\n' :: rest => longBasicBody? skipping (if skipping then out else '\n' :: out) rest
  | c :: rest =>
    if c = '\n' then longBasicBody? skipping (if skipping then out else '\n' :: out) rest
    else if skipping && isSpace c then longBasicBody? true out rest
    else if isPlain c && c != '\\' then longBasicBody? false (c :: out) rest
    else none
  | [] => none

/-- A literal string of several lines, behind its opening quotes. -/
def longLiteralBody? (out : List Char) : List Char → Option (String × List Char)
  | '\'' :: '\'' :: '\'' :: '\'' :: '\'' :: rest =>
    some (String.ofList ('\'' :: '\'' :: out).reverse, rest)
  | '\'' :: '\'' :: '\'' :: '\'' :: rest => some (String.ofList ('\'' :: out).reverse, rest)
  | '\'' :: '\'' :: '\'' :: rest => some (String.ofList out.reverse, rest)
  | '\r' :: '\n' :: rest => longLiteralBody? ('\n' :: out) rest
  | c :: rest => if c = '\n' || isPlain c then longLiteralBody? (c :: out) rest else none
  | [] => none

/-- A line break right behind the opening quotes of a string of several lines does not count. -/
def dropBreak (cs : List Char) : List Char := (afterBreak? cs).getD cs

/-- A string of any of the four forms. -/
def stringValue? : List Char → Option (String × List Char)
  | '"' :: '"' :: '"' :: rest => longBasicBody? false [] (dropBreak rest)
  | '"' :: rest => basicBody? [] rest
  | '\'' :: '\'' :: '\'' :: rest => longLiteralBody? [] (dropBreak rest)
  | '\'' :: rest => literalBody? [] rest
  | _ => none

/-! ### Numbers -/

/-- Whether there are digits, and each underscore stands between two of them. -/
def wellSeparated (run : List Char) : Bool :=
  run != [] && run.head? != some '_' && run.getLast? != some '_'
    && !(run.zip run.tail).contains ('_', '_')

/-- Digits, without the underscores between them. -/
def digitRun? (isDigit : Char → Bool) (cs : List Char) : Option (List Char × List Char) :=
  let inRun (c : Char) := isDigit c || c = '_'
  let run := cs.takeWhile inRun
  if wellSeparated run then some (run.filter (· != '_'), cs.dropWhile inRun) else none

/-- A whole number of 64 bits. -/
def integer? (negative : Bool) (n : Nat) : Option Toml :=
  if negative then if n ≤ twoTo 63 then some (.integer (-n)) else none
  else if n < twoTo 63 then some (.integer n) else none

/-- A whole number in a base up to sixteen, behind the base's mark. -/
def based? (base : Nat) (cs : List Char) : Option (Toml × List Char) := do
  let isDigit (c : Char) := (Text.hexDigit? c).any (· < base)
  let (ds, rest) ← digitRun? isDigit cs
  let n := ds.foldl (fun n c => n * base + (Text.hexDigit? c).getD 0) 0
  (integer? false n).map (·, rest)

/-- The exponent of a number, if it has one. -/
def exponent? : List Char → Option (Option Int × List Char)
  | [] => some (none, [])
  | c :: rest =>
    if c = 'e' || c = 'E' then do
      let (negative, rest) := Binary64.splitSign rest
      let (ds, rest) ← digitRun? Char.isDigit rest
      let n : Int := Nat.ofDigitChars 10 ds 0
      some (some (if negative then -n else n), rest)
    else some (none, c :: rest)

/-- A decimal number. With a point or an exponent it is the nearest binary64 number; one too large
for those is refused, unless it is negative. -/
def decimal? (cs : List Char) : Option (Toml × List Char) := do
  let (negative, rest) := Binary64.splitSign cs
  let (whole, rest) ← digitRun? Char.isDigit rest
  if whole.head? = some '0' && whole.length != 1 then none else
  let (fraction, rest) ← match rest with
    | '.' :: rest => (digitRun? Char.isDigit rest).map fun (ds, rest) => (some ds, rest)
    | _ => some (none, rest)
  let (exponent, rest) ← exponent? rest
  if fraction.isNone && exponent.isNone then
    (integer? negative (Nat.ofDigitChars 10 whole 0)).map (·, rest)
  else
    let fraction := fraction.getD []
    let x := Binary64.ofDecimal negative (Nat.ofDigitChars 10 (whole ++ fraction) 0)
      (exponent.getD 0 - fraction.length)
    if x = Binary64.infinity false then none else some (.float x, rest)

/-- Infinity or NaN. -/
def word? (cs : List Char) : Option (Toml × List Char) :=
  let (negative, rest) := Binary64.splitSign cs
  match rest with
  | 'i' :: 'n' :: 'f' :: rest => some (.float (Binary64.infinity negative), rest)
  | 'n' :: 'a' :: 'n' :: rest => some (.float Binary64.nan, rest)
  | _ => none

def number? : List Char → Option (Toml × List Char)
  | '0' :: 'x' :: rest => based? 16 rest
  | '0' :: 'o' :: rest => based? 8 rest
  | '0' :: 'b' :: rest => based? 2 rest
  | cs => (word? cs).or (decimal? cs)

/-- Any value but an array or a table. -/
def scalar? : List Char → Option (Toml × List Char)
  | 't' :: 'r' :: 'u' :: 'e' :: rest => some (.boolean true, rest)
  | 'f' :: 'a' :: 'l' :: 's' :: 'e' :: rest => some (.boolean false, rest)
  | cs =>
    ((stringValue? cs).map fun (text, rest) => (.string text, rest)).or
      (((Datetime.scan? cs).map fun (d, rest) => (.datetime d, rest)).or (number? cs))

end TrackSelect.Toml
