import TrackSelect.Machine.Shell.Source
import TrackSelect.Text.Bytes
import TrackSelect.Text.Numeral

/-!
# Reading words

`Words.read` reads the pieces of a word up to where its place ends it: in a command at a blank or
an operator, between quotes or braces at the closing one. What is enclosed in a word is read the
same way in a place of its own.
-/

namespace TrackSelect.Shell

/-- Where a word is read. -/
inductive Place where
  /-- In a command, up to a character that ends words. -/
  | command
  /-- Between double quotes. -/
  | quotes
  /-- Between braces, up to the closing one. -/
  | braces (isQuoted : Bool)
  /-- In an expression, up to two closing parentheses. -/
  | number
  /-- In one of several expressions, up to a semicolon or two closing parentheses, which stay. -/
  | clause
  /-- Between brackets, up to the closing one. -/
  | index
  /-- One of the parts between braces, up to a mark or the closing brace, which stay. -/
  | part (isQuoted : Bool) (mark : Char)
  /-- A regular expression, up to a blank outside of parentheses. -/
  | expression
  /-- A text that stands below its command, up to the end. -/
  | text
deriving DecidableEq, Repr

namespace Place

def isQuoted : Place → Bool
  | command | expression => false
  | quotes | number | clause | index | text => true
  | braces isQuoted | part isQuoted _ => isQuoted

/-- Whether characters between single quotes are quoted there. -/
def knowsQuotes : Place → Bool
  | command | expression | index => true
  | braces isQuoted | part isQuoted _ => !isQuoted
  | quotes | number | clause | text => false

end Place

/-- Put a piece in front, together with one of its sort. The pieces are in reverse order. -/
def addPiece : Piece → Word → Word
  | .text false b, .text false a :: rest => .text false (a ++ b) :: rest
  | .text true b, .text true a :: rest => .text true (a ++ b) :: rest
  | piece, rest => piece :: rest

namespace Words

open Reader

/-- The value of a digit in some base. -/
def digit? (base : Nat) (c : Char) : Option Nat :=
  let n :=
    if c.isDigit then c.toNat - 48
    else if 'a' ≤ c && c ≤ 'z' then c.toNat - 87
    else if 'A' ≤ c && c ≤ 'Z' then c.toNat - 55
    else base
  if n < base then some n else none

/-- Up to so many digits at the front of a text: their value, how many there are, and the text
behind them. -/
def digits (base most : Nat) (cs : List Char) : Nat × Nat × List Char :=
  let ds := (cs.take most).takeWhile fun c => (digit? base c).isSome
  (ds.foldl (fun n c => n * base + (digit? base c).getD 0) 0, ds.length, cs.drop ds.length)

/-- The bytes of a character by its number. -/
def bytesOf (number : Nat) : List Char :=
  (Text.Bytes.ofText (String.singleton (Char.ofNat number))).toList

/-- Replace the escapes of a text in the manner of strings in programs. -/
def unescape (fuel : Nat) (cs : List Char) : List Char :=
  match fuel, cs with
  | 0, _ => []
  | _, [] => []
  | fuel + 1, '\\' :: c :: rest =>
    let one (n : Nat) : List Char := Char.ofNat n :: unescape fuel rest
    match c with
    | 'n' => one 10
    | 't' => one 9
    | 'r' => one 13
    | 'a' => one 7
    | 'b' => one 8
    | 'e' | 'E' => one 27
    | 'f' => one 12
    | 'v' => one 11
    | 'x' =>
      let (n, count, rest) := digits 16 2 rest
      if count = 0 then '\\' :: 'x' :: unescape fuel rest
      else Char.ofNat (n % 256) :: unescape fuel rest
    | 'u' | 'U' =>
      let (n, count, rest) := digits 16 (if c = 'u' then 4 else 8) rest
      if count = 0 then '\\' :: c :: unescape fuel rest
      else bytesOf n ++ unescape fuel rest
    | _ =>
      if (digit? 8 c).isSome then
        let (n, _, rest) := digits 8 3 (c :: rest)
        Char.ofNat (n % 256) :: unescape fuel rest
      else if c = '\\' || c = '\'' || c = '"' || c = '?' then c :: unescape fuel rest
      else '\\' :: c :: unescape fuel rest
  | fuel + 1, c :: rest => c :: unescape fuel rest

def unterminated {α : Type} : Reader α := do
  match ← dialect with
  | .plain => fail "Syntax error: Unterminated quoted string"
  | .extended => fail "unexpected EOF while looking for matching \x60\"'"

/-- The characters up to a single quote, behind the one that opens. -/
def singleQuoted (escapes : Bool) : Reader (List Char) := do
  let cs ← loop [] fun cs => do
    match ← raw with
    | some '\'' => pure (.inr cs)
    | some '\\' =>
      if escapes then
        match ← raw with
        | some c => pure (.inl (c :: '\\' :: cs))
        | none => unterminated
      else pure (.inl ('\\' :: cs))
    | some c => pure (.inl (c :: cs))
    | none => unterminated
  pure cs.reverse

/-- The source between backquotes, behind the one that opens. -/
def backquoted (isQuoted : Bool) : Reader (List Char) := do
  let cs ← loop [] fun cs => do
    match ← raw with
    | none => fail "Syntax error: EOF in backquote substitution"
    | some '\\' =>
      match ← raw with
      | none => pure (.inl ('\\' :: cs))
      | some '\n' => pure (.inl cs)
      | some c =>
        if c = '\\' || isBackquote c || c = '$' || (isQuoted && c = '"') then
          pure (.inl (c :: cs))
        else pure (.inl (c :: '\\' :: cs))
    | some c => if isBackquote c then pure (.inr cs) else pure (.inl (c :: cs))
  pure cs.reverse

/-- What a word reader needs of the rest of the language: words in other places, and scripts up to
a closing parenthesis or to the end. -/
structure Others where
  word : Place → Reader Word
  script : (closed : Bool) → Reader Script

/-- Behind a name: what is between brackets. -/
def index? (others : Others) : Reader (Option Word) := do
  if (← dialect) = .extended then
    if ← isNext '[' then return some (← others.word .index)
  return none

/-- The name of a parameter between braces. -/
def name? : Reader (Option String) := do
  match ← peek with
  | none => pure none
  | some c =>
    if isNameStart c then return some (String.ofList (← while_ isNamePart))
    else if c.isDigit then return some (String.ofList (← while_ Char.isDigit))
    else if isSpecial c then
      skip 1
      pure (some (String.singleton c))
    else pure none

/-- The parts of what is between braces, with marks between them, up to the closing one. -/
def parts (others : Others) (isQuoted : Bool) (mark : Char) (most : Nat) :
    Reader (List Word) := do
  let first ← others.word (.part isQuoted mark)
  if ← isNext mark then
    if most = 2 then return [first, ← others.word (.braces isQuoted)]
  discard (isNext '}')
  return [first]

/-- What becomes of a parameter between braces, behind its name. -/
def change (others : Others) (isQuoted : Bool) : Reader (Change × List Word) := do
  let extended := (← dialect) = .extended
  let operand (change : Change) (marks : Nat) (isQuoted : Bool) : Reader (Change × List Word) := do
    skip marks
    return (change, [← others.word (.braces isQuoted)])
  match ← peekMany 2 with
  | '}' :: _ =>
    skip 1
    return (.keep, [])
  | ':' :: '-' :: _ => operand (.default true) 2 isQuoted
  | ':' :: '=' :: _ => operand (.assign true) 2 isQuoted
  | ':' :: '+' :: _ => operand (.instead true) 2 isQuoted
  | ':' :: '?' :: _ => operand (.require true) 2 isQuoted
  | '-' :: _ => operand (.default false) 1 isQuoted
  | '=' :: _ => operand (.assign false) 1 isQuoted
  | '+' :: _ => operand (.instead false) 1 isQuoted
  | '?' :: _ => operand (.require false) 1 isQuoted
  | '#' :: '#' :: _ => operand (.withoutStart true) 2 false
  | '#' :: _ => operand (.withoutStart false) 1 false
  | '%' :: '%' :: _ => operand (.withoutEnd true) 2 false
  | '%' :: _ => operand (.withoutEnd false) 1 false
  | c :: d :: _ =>
    if !extended then operand .bad 0 isQuoted
    else match c with
      | ':' =>
        skip 1
        return (.slice, ← parts others true ':' 2)
      | '/' =>
        let (extent, marks) := match d with
          | '/' => (Extent.all, 2)
          | '#' => (.start, 2)
          | '%' => (.finish, 2)
          | _ => (.first, 1)
        skip marks
        return (.replace extent, ← parts others false '/' 2)
      | '^' => operand (.letters true (d = '^')) (if d = '^' then 2 else 1) false
      | ',' => operand (.letters false (d = ',')) (if d = ',' then 2 else 1) false
      | '@' => if d = 'Q' then operand .quote 2 isQuoted else operand .bad 0 isQuoted
      | _ => operand .bad 0 isQuoted
  | _ => operand .bad 0 isQuoted

/-- A parameter between braces, behind the opening one. -/
def braced (others : Others) (isQuoted : Bool) : Reader Piece := do
  let extended := (← dialect) = .extended
  let closing (piece : Piece) : Reader Piece := do
    if ← isNext '}' then pure piece
    else return .parameter isQuoted "" none .bad [← others.word (.braces isQuoted)]
  let changed (name : String) : Reader Piece := do
    let index ← index? others
    let (change, operands) ← change others isQuoted
    return .parameter isQuoted name index change operands
  match ← peekMany 3 with
  | '#' :: '}' :: _ =>
    skip 2
    return .parameter isQuoted "#" none .keep []
  | '#' :: c :: rest =>
    skip 1
    if isNamePart c then
      let name ← name?
      let index ← index? others
      closing (.parameter isQuoted (name.getD "") index .count [])
    else if isSpecial c && rest.head? = some '}' then
      skip 2
      return .parameter isQuoted (String.singleton c) none .count []
    else changed "#"
  | '!' :: c :: _ =>
    if extended && (isNamePart c) then
      skip 1
      let name := (← name?).getD ""
      let index ← index? others
      match index, ← peek with
      | some [.text _ ['@']], _ | some [.text _ ['*']], _ =>
        closing (.parameter isQuoted name index .indices [])
      | _, some '*' | _, some '@' =>
        skip 1
        closing (.parameter isQuoted name none .names [])
      | _, _ =>
        let (change, operands) ← change others isQuoted
        return .parameter isQuoted name index .indirect
          (if change = .keep then [] else [[.parameter isQuoted "" none change operands]])
    else
      skip 1
      changed "!"
  | _ =>
    match ← name? with
    | some name => changed name
    | none => return .parameter isQuoted "" none .bad [← others.word (.braces isQuoted)]

/-- What stands behind a dollar sign. -/
def dollar (others : Others) (place : Place) : Reader Piece := do
  let isQuoted := place.isQuoted
  let extended := (← dialect) = .extended
  match ← peekMany 2 with
  | '(' :: '(' :: _ =>
    let number : Reader Piece := do
      skip 2
      return .number isQuoted (← others.word .number)
    let output : Reader Piece := do
      skip 1
      return .output isQuoted (← others.script true)
    if extended then
      fun source => match number source with
        | .ok result => .ok result
        | .error _ => output source
    else number
  | '(' :: _ =>
    skip 1
    return .output isQuoted (← others.script true)
  | '{' :: _ =>
    skip 1
    braced others isQuoted
  | c :: _ =>
    if isNameStart c then
      return .parameter isQuoted (String.ofList (← while_ isNamePart)) none .keep []
    else if isSpecial c then
      skip 1
      return .parameter isQuoted (String.singleton c) none .keep []
    else if extended && c = '\'' && place.knowsQuotes then
      skip 1
      let cs ← singleQuoted true
      return .text true (unescape cs.length cs)
    else if extended && c = '"' && place.knowsQuotes then
      return .text true []
    else return .text isQuoted ['$']
  | [] => return .text isQuoted ['$']

/-- What is known while a word is read: the pieces so far, the last one first, and how many
parentheses or brackets are open. -/
structure Progress where
  pieces : Word := []
  depth : Nat := 0

/-- How a place goes on at its next character: at its end, with a character that has no meaning of
its own, or with a piece. -/
inductive Move where
  | over
  | plain (depth : Nat)
  | other

/-- Whether a place ends at some characters, which are skipped if they belong to it, or how deep
it is behind a character that opens or closes something. -/
def move (place : Place) (extended : Bool) (depth : Nat) : List Char → Reader Move
  | [] =>
    match place with
    | .command | .text | .expression => pure .over
    | .quotes => unterminated
    | .braces _ | .part .. => fail "Syntax error: Missing '\x7d'"
    | .number | .clause | .index => fail "Syntax error: Missing '))'"
  | c :: rest =>
    match place with
    | .command =>
      if extended && (c = '<' || c = '>') && rest.head? = some '(' then pure .other
      else if isMeta c then pure .over
      else pure .other
    | .quotes =>
      if c = '"' then do
        skip 1
        pure .over
      else pure .other
    | .braces _ =>
      if c = '\x7d' then do
        skip 1
        pure .over
      else pure .other
    | .number =>
      if c = '(' then pure (.plain (depth + 1))
      else if c = ')' then
        if 0 < depth then pure (.plain (depth - 1))
        else if rest.head? = some ')' then do
          skip 2
          pure .over
        else if extended then fail "syntax error"
        else pure (.plain 0)
      else pure .other
    | .clause =>
      if c = '(' then pure (.plain (depth + 1))
      else if c = ')' then
        if 0 < depth then pure (.plain (depth - 1)) else pure .over
      else if c = ';' && depth = 0 then pure .over
      else pure .other
    | .index =>
      if c = '[' then pure (.plain (depth + 1))
      else if c = ']' then
        if 0 < depth then pure (.plain (depth - 1))
        else do
          skip 1
          pure .over
      else pure .other
    | .part _ mark =>
      if c = '\x7d' then pure .over
      else if c = '(' && mark = ':' then pure (.plain (depth + 1))
      else if c = ')' && mark = ':' then pure (.plain (depth - 1))
      else if c = mark && depth = 0 then pure .over
      else pure .other
    | .expression =>
      if c = '(' then pure (.plain (depth + 1))
      else if c = ')' then if 0 < depth then pure (.plain (depth - 1)) else pure .over
      else if (isSpace c || c = '\n') && depth = 0 then pure .over
      else pure .other
    | .text => pure .other

/-- A backslash stands in front of the next character. -/
def escaped (place : Place) : Reader Piece := do
  match ← raw with
  | none => return .text true ['\\']
  | some c =>
    let isEscape := !place.isQuoted || place = .index || c = '\\' || isBackquote c || c = '$'
      || (c = '"' && place ≠ .text)
      || (c = '\x7d' && match place with
          | .braces _ | .part .. => true
          | _ => false)
    return .text true (if isEscape then [c] else ['\\', c])

/-- One more piece of a word, from its next character on. -/
def piece (others : Others) (place : Place) (c : Char) : Reader Word := do
  let extended := (← dialect) = .extended
  let isQuoted := place.isQuoted
  if c = '\\' then
    skip 1
    return [← escaped place]
  else if c = '$' then
    skip 1
    return [← dollar others place]
  else if isBackquote c then
    skip 1
    let source ← backquoted isQuoted
    return [.output isQuoted (← within source (others.script false))]
  else if c = '\'' && place.knowsQuotes then
    skip 1
    return [.text true (← singleQuoted false)]
  else if c = '"' && place ≠ .text && (extended || (place ≠ .number && place ≠ .clause)) then
    skip 1
    let inner ← others.word .quotes
    return if inner.isEmpty then [.text true []] else inner
  else if extended && place = .command && (c = '<' || c = '>') then
    skip 2
    return [.channel (c = '<') (← others.script true)]
  else
    skip 1
    return [.text isQuoted [c]]

/-- Read a word in its place, given how the words inside of it are read. -/
def readWith (others : Others) (place : Place) : Reader Word := do
  let extended := (← dialect) = .extended
  let pieces ← loop ({} : Progress) fun progress => do
    let next ← peekMany 2
    match ← move place extended progress.depth next with
    | .over => pure (.inr progress.pieces)
    | .plain depth =>
      skip 1
      pure (.inl ⟨addPiece (.text place.isQuoted (next.take 1)) progress.pieces, depth⟩)
    | .other =>
      let more ← piece others place (next.headD ' ')
      pure (.inl { progress with pieces := more.foldl (fun w p => addPiece p w) progress.pieces })
  pure pieces.reverse

/-- Read a word in its place; `fuel` bounds how deep words are inside of one another. -/
def read (script : (closed : Bool) → Reader Script) : (fuel : Nat) → Place → Reader Word
  | 0, _ => fail "Syntax error"
  | fuel + 1, place => readWith ⟨read script fuel, script⟩ place

end Words

end TrackSelect.Shell
