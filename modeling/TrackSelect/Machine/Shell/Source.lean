import TrackSelect.Machine.Shell.Script

/-!
# Reading the source of a script

A `Reader` takes characters from a source, keeps count of its lines, and fails with a message if
the source is no script. A backslash in front of a line end joins two lines; outside of single
quotes both are skipped wherever a character is read.
-/

namespace TrackSelect.Shell

/-- A text in a script that starts below the present line. -/
structure Awaited where
  number : Nat
  /-- The line behind its last one. -/
  delimiter : List Char
  /-- Whether parameters have no meaning in it. -/
  isQuoted : Bool
  /-- Whether tabs in front of its lines do not count. -/
  stripsTabs : Bool

/-- A token of a script. -/
inductive Token where
  | finish
  | lineEnd
  | operator (text : String)
  | redirection (channel : Option Nat) (how : Redirection) (stripsTabs : Bool)
  | word (word : Word) (isQuoted : Bool)
  | keyword (name : String)

/-- Why a source is no script. -/
structure Unreadable where
  line : Nat
  message : String
deriving Repr

structure Source where
  dialect : Dialect
  rest : List Char
  /-- More than there are steps in reading any part of the source. -/
  bound : Nat := 2 * rest.length + 8
  line : Nat := 1
  /-- All lines of the source, for messages. -/
  lines : List (List Char) := []
  /-- A token that has been read and is to be read again, and the last token. -/
  held : Option Token := none
  last : Token := .finish
  awaited : List Awaited := []
  /-- The texts that were awaited, by number. -/
  texts : List (Nat × Word) := []
  /-- The next number for a text. -/
  next : Nat := 0

abbrev Reader := StateT Source (Except Unreadable)

namespace Reader

/-- Fail on the present line. -/
def fail {α : Type} (message : String) : Reader α := fun source => .error ⟨source.line, message⟩

/-- Repeat a step as long as it gives no result. Each step reads a character or is the last. -/
def loop {σ α : Type} (start : σ) (step : σ → Reader (σ ⊕ α)) : Reader α := do
  go (← get).bound start
where
  go : Nat → σ → Reader α
    | 0, _ => fail "Syntax error"
    | fuel + 1, s => do
      match ← step s with
      | .inl s => go fuel s
      | .inr a => pure a

/-- Skip joints of lines. -/
def joined (line : Nat) : List Char → List Char × Nat
  | '\\' :: '\n' :: rest => joined (line + 1) rest
  | cs => (cs, line)

/-- The next character, which stays where it is. -/
def peek : Reader (Option Char) := fun source =>
  let (cs, line) := joined source.line source.rest
  .ok (cs.head?, { source with rest := cs, line })

/-- The next characters, which stay where they are. -/
def peekMany (n : Nat) : Reader (List Char) := fun source =>
  let (cs, line) := joined source.line source.rest
  .ok (cs.take n, { source with rest := cs, line })

/-- Read the next character as it stands. -/
def raw : Reader (Option Char) := fun source =>
  match source.rest with
  | [] => .ok (none, source)
  | c :: rest =>
    .ok (some c, { source with rest, line := if c = '\n' then source.line + 1 else source.line })

/-- Read the next character. -/
def char : Reader (Option Char) := do
  discard peek
  raw

/-- Skip some characters. -/
def skip : Nat → Reader Unit
  | 0 => pure ()
  | n + 1 => do
    discard char
    skip n

/-- Read a character if it is the next one. -/
def isNext (c : Char) : Reader Bool := do
  if (← peek) = some c then
    discard char
    pure true
  else pure false

/-- Read characters as long as they are of some sort. -/
def while_ (sort : Char → Bool) : Reader (List Char) := do
  let cs ← loop [] fun cs => do
    match ← peek with
    | some c =>
      if sort c then
        discard char
        pure (.inl (c :: cs))
      else pure (.inr cs)
    | none => pure (.inr cs)
  pure cs.reverse

def dialect : Reader Dialect := do return (← get).dialect

/-- Read a token again. -/
def putBack (token : Token) : Reader Unit := modify fun source => { source with held := some token }

/-- What a reader reads from another text, on the present line. -/
def within {α : Type} (text : List Char) (reader : Reader α) : Reader α := do
  let outer ← get
  set { outer with rest := text, held := none, awaited := [] }
  let a ← reader
  modify fun inner => { inner with
    rest := outer.rest, line := outer.line, held := outer.held, awaited := outer.awaited }
  pure a

end Reader

/-! ### Messages -/

namespace Token

/-- A token in a message. -/
def shown : Token → String
  | finish => "end of file"
  | lineEnd => "newline"
  | operator text => "\"" ++ text ++ "\""
  | redirection .. => "redirection"
  | word .. => "word"
  | keyword name => "\"" ++ name ++ "\""

end Token

namespace Reader

/-- Fail because of the last token; another one may have been wanted. -/
def unexpected {α : Type} (wanted : Option Token) : Reader α := fun source =>
  let message := match source.dialect, wanted with
    | .plain, none => "Syntax error: " ++ source.last.shown ++ " unexpected"
    | .plain, some wanted =>
      "Syntax error: " ++ source.last.shown ++ " unexpected (expecting " ++ wanted.shown ++ ")"
    | .extended, _ =>
      let token := match source.last with
        | .finish => none
        | .lineEnd => some "newline"
        | .operator text | .keyword text => some text
        | .redirection .. => some "<"
        | .word word _ => some (String.ofList ((Script.literal? word).getD []))
      match token with
      | none => "syntax error: unexpected end of file"
      | some token =>
        let text := (source.lines[source.line - 1]?).getD []
        "syntax error near unexpected token \x60" ++ token ++ "'\n\x60" ++ String.ofList text ++ "'"
  .error ⟨source.line, message⟩

end Reader

end TrackSelect.Shell
