import TrackSelect.Machine.Shell.Word

/-!
# The grammar of scripts

A script is read one line of commands at a time, so that what stands in earlier lines can be done
before a mistake in a later one is found. `Grammar.line?` reads the commands of a line, with the
lines that their last command goes on in.
-/

namespace TrackSelect.Shell

/-- A part of a script that is read. -/
inductive Wanted where
  /-- The commands up to the end of a line. -/
  | line
  /-- Commands up to a token that ends them. -/
  | body
  /-- The same; there may be none. -/
  | bodyOrNothing
  | command
deriving DecidableEq, Repr

namespace Grammar

open Reader

/-- How parts of the language are read that are inside of other ones. -/
structure Parsers where
  word : Place → Reader Word
  script : Wanted → Reader Script

/-! ### Tokens -/

/-- The words with a meaning of their own at the start of a command. -/
def keywords : Dialect → List String
  | .plain => ["!", "case", "do", "done", "elif", "else", "esac", "fi", "for", "if", "in", "then",
      "until", "while", "\x7b", "\x7d"]
  | .extended => ["!", "case", "do", "done", "elif", "else", "esac", "fi", "for", "if", "in",
      "then", "until", "while", "\x7b", "\x7d", "[[", "function"]

/-- The operators, the longer ones first. -/
def operators : Dialect → List String
  | .plain => ["&&", "&", "||", "|", ";;", ";", "(", ")"]
  | .extended =>
    [";;&", "&&", "&", "||", "|&", "|", ";;", ";&", ";", "(", ")"]

/-- The redirections without their channels: the text, what it does, and whether tabs at the start
of lines are dropped. -/
def redirections : Dialect → List (String × Redirection × Bool)
  | .plain =>
    [(">>", .append, false), (">|", .force, false), (">&", .copy false, false),
      (">", .output, false), ("<<-", .here, true), ("<<", .here, false), ("<&", .copy true, false),
      ("<>", .both, false), ("<", .input, false)]
  | .extended =>
    [("&>>", .outputs true, false), ("&>", .outputs false, false), (">>", .append, false),
      (">|", .force, false), (">&", .copy false, false), (">", .output, false),
      ("<<<", .word, false), ("<<-", .here, true), ("<<", .here, false),
      ("<&", .copy true, false), ("<>", .both, false), ("<", .input, false)]

def startsWith (text : String) (cs : List Char) : Bool := text.toList.isPrefixOf cs

/-- Skip blanks and a comment. -/
def blanks : Reader Unit := do
  discard (while_ isSpace)
  if (← peek) = some '#' then
    modify fun source => { source with rest := source.rest.dropWhile (· ≠ '\n') }

/-- A redirection, with the channel that stands in front of it. -/
def redirection? (channel : Option Nat) : Reader (Option Token) := do
  let cs ← peekMany 3
  let dialect ← dialect
  match (redirections dialect).find? fun entry => startsWith entry.1 cs with
  | none => return none
  | some (text, how, strips) =>
    let isChannel := dialect = .extended && cs[1]? = some '('
    if isChannel then return none
    skip text.length
    return some (.redirection channel how strips)

/-- A redirection with digits in front of it. -/
def numbered? : Reader (Option Token) := fun source =>
  let reader : Reader (Option Token) := do
    let ds ← while_ Char.isDigit
    if ds = [] || ((← dialect) = .plain && 1 < ds.length) then return none
    if (← peek) = some '&' then return none
    redirection? (Text.natural? ds)
  match reader source with
  | .ok (some token, source) => .ok (some token, source)
  | _ => .ok (none, source)

/-- Whether a word has a part that is quoted. -/
def isQuoted (word : Word) : Bool :=
  word.any fun
    | .text isQuoted _ | .parameter isQuoted .. | .output isQuoted _ | .number isQuoted _ =>
      isQuoted
    | _ => false

/-- The next token of the source. -/
def fresh (parsers : Parsers) : Reader Token := do
  blanks
  let cs ← peekMany 3
  match cs with
  | [] => return .finish
  | '\n' :: _ =>
    skip 1
    return .lineEnd
  | _ =>
    match ← numbered? with
    | some token => return token
    | none =>
      match ← redirection? none with
      | some token => return token
      | none =>
        let dialect ← dialect
        match (operators dialect).find? (startsWith · cs) with
        | some operator =>
          skip operator.length
          return .operator operator
        | none =>
          let word ← parsers.word .command
          return .word word (isQuoted word)

/-! ### Texts below the line -/

/-- The lines of a text up to its delimiter. -/
def textLines (awaited : Awaited) : Reader (List Char) := do
  let lines ← loop ([] : List (List Char)) fun lines => do
    let source ← get
    if source.rest = [] then return .inr lines
    let line := source.rest.takeWhile (· ≠ '\n')
    let rest := source.rest.drop line.length
    set { source with rest := rest.drop 1, line := source.line + (rest.take 1).length }
    let line := if awaited.stripsTabs then line.dropWhile (· = '\t') else line
    if line = awaited.delimiter then return .inr lines
    return .inl ((line ++ rest.take 1) :: lines)
  return lines.reverse.flatten

/-- Read the texts that are awaited. -/
def texts (parsers : Parsers) : Reader Unit := do
  let awaited := (← get).awaited
  modify fun source => { source with awaited := [] }
  awaited.forM fun text => do
    let cs ← textLines text
    let word ← if text.isQuoted then pure [.text true cs] else within cs (parsers.word .text)
    modify fun source => { source with texts := (text.number, word) :: source.texts }

/-- The next token. Where keywords are known, a word can be one; where line ends do not matter,
they are skipped. -/
def next (parsers : Parsers) (knowsKeywords skipsLines : Bool) : Reader Token := do
  let held := (← get).held
  modify fun source => { source with held := none }
  let token ← match held with
    | some token => pure token
    | none => fresh parsers
  let token ← if skipsLines then
      loop token fun token => do
        match token with
        | .lineEnd =>
          texts parsers
          return .inl (← fresh parsers)
        | token => return .inr token
    else pure token
  let dialect ← dialect
  let token := match token with
    | .word word false =>
      match Script.literal? word with
      | some cs =>
        if knowsKeywords && (keywords dialect).contains (String.ofList cs) then
          Token.keyword (String.ofList cs)
        else token
      | none => token
    | _ => token
  modify fun source => { source with last := token }
  return token

/-- Read a token again. -/
def again (token : Token) : Reader Unit := putBack token

/-- Read a keyword or an operator that has to come next. -/
def want (parsers : Parsers) (wanted : Token) (skipsLines : Bool) : Reader Unit := do
  match ← next parsers skipsLines skipsLines, wanted with
  | .keyword name, .keyword other => if name = other then pure () else unexpected (some wanted)
  | .operator text, .operator other => if text = other then pure () else unexpected (some wanted)
  | _, _ => unexpected (some wanted)

/-- Whether a token ends a body. -/
def ends : Token → Bool
  | .finish => true
  | .operator text => text = ")" || text = ";;" || text = ";&" || text = ";;&"
  | .keyword name =>
    ["do", "done", "elif", "else", "esac", "fi", "then", "\x7d"].contains name
  | _ => false

/-! ### Redirections -/

/-- The characters of a word, whether they are quoted or not. -/
def characters : Word → List Char
  | [] => []
  | .text _ cs :: rest => cs ++ characters rest
  | .parameter _ name _ _ _ :: rest => '$' :: name.toList ++ characters rest
  | _ :: rest => characters rest

/-- What stands behind a redirection. -/
def redirect (parsers : Parsers) (channel : Option Nat) (how : Redirection) (stripsTabs : Bool) :
    Reader Redirect := do
  match ← next parsers false false with
  | .word word isQuoted =>
    let usual := match how with
      | .input | .both | .here | .word | .copy true => 0
      | _ => 1
    let channel := channel.getD usual
    match how with
    | .here =>
      let number := (← get).next
      modify fun source => { source with
        next := number + 1
        awaited := source.awaited ++ [⟨number, characters word, isQuoted, stripsTabs⟩] }
      return .to channel .here [.here number]
    | .copy false =>
      let isPlain := (← dialect) = .plain
      match Script.literal? word with
      | some cs =>
        if isPlain || cs = ['-'] || cs.all Char.isDigit then return .to channel how word
        else return .to channel (.outputs false) word
      | none => return .to channel how word
    | _ => return .to channel how word
  | _ => unexpected none

/-- The redirections behind a command that is not simple. -/
def redirects (parsers : Parsers) : Reader (List Redirect) := do
  let found ← loop ([] : List Redirect) fun found => do
    match ← next parsers true false with
    | .redirection channel how strips =>
      return .inl ((← redirect parsers channel how strips) :: found)
    | token =>
      again token
      return .inr found
  return found.reverse

/-! ### Settings -/

/-- What is set at the start of a word: a name, an index, whether something is added, and the part
of the word behind it. -/
structure Target where
  name : String
  index : Option Word
  adds : Bool
  value : Word

/-- Put characters in front of a word, unless there are none. -/
def consText (cs : List Char) (word : Word) : Word :=
  if cs = [] then word else .text false cs :: word

/-- A word behind an equals sign or a plus and an equals sign. -/
def behindEquals (dialect : Dialect) : List Char → Word → Option (Bool × Word)
  | '=' :: cs, word => some (false, consText cs word)
  | '+' :: '=' :: cs, word => if dialect = .extended then some (true, consText cs word) else none
  | _, _ => none

/-- A word up to the bracket that closes it, and what is set behind that. -/
def splitIndex : (depth : Nat) → Word → Option (Word × Bool × Word)
  | _, [] => none
  | depth, .text false cs :: rest =>
    match scan depth cs with
    | .inl (cs, more) =>
      (behindEquals .extended more rest).map fun (adds, value) => (consText cs [], adds, value)
    | .inr depth => (splitIndex depth rest).map fun (index, set) => (consText cs index, set)
  | depth, piece :: rest => (splitIndex depth rest).map fun (index, set) => (piece :: index, set)
where
  /-- The characters up to a closing bracket and behind it, or how deep the brackets are. -/
  scan : Nat → List Char → (List Char × List Char) ⊕ Nat
    | depth, [] => .inr depth
    | depth, ']' :: cs =>
      if depth = 0 then .inl ([], cs)
      else match scan (depth - 1) cs with
        | .inl (before, after) => .inl (']' :: before, after)
        | .inr depth => .inr depth
    | depth, c :: cs =>
      match scan (if c = '[' then depth + 1 else depth) cs with
      | .inl (before, after) => .inl (c :: before, after)
      | .inr depth => .inr depth

/-- Whether a word sets something. -/
def target? (dialect : Dialect) : Word → Option Target
  | .text false cs :: rest =>
    let name := cs.takeWhile isNamePart
    if !isName name then none
    else match cs.drop name.length with
      | '[' :: more =>
        if dialect = .plain then none
        else (splitIndex 0 (consText more rest)).map fun (index, adds, value) =>
          ⟨String.ofList name, some index, adds, value⟩
      | more => (behindEquals dialect more rest).map fun (adds, value) =>
          ⟨String.ofList name, none, adds, value⟩
  | _ => none

/-- An element of an array, with its index if one is given. -/
def element (word : Word) : Option Word × Word :=
  match word with
  | .text false ('[' :: cs) :: rest =>
    match splitIndex 0 (consText cs rest) with
    | some (index, _, value) => (some index, value)
    | none => (none, word)
  | _ => (none, word)

/-- The elements of an array behind the opening parenthesis. -/
def elements (parsers : Parsers) : Reader (List (Option Word × Word)) := do
  let found ← loop ([] : List (Option Word × Word)) fun found => do
    match ← next parsers false true with
    | .word word _ => return .inl (element word :: found)
    | .operator ")" => return .inr found
    | _ => unexpected none
  return found.reverse

/-- The setting that a word stands for, if it does. -/
def setting? (parsers : Parsers) (word : Word) : Reader (Option Setting) := do
  let dialect ← dialect
  match target? dialect word with
  | none => return none
  | some target =>
    if dialect = .extended && target.value.isEmpty && (← peek) = some '(' then
      skip 1
      return some (.set target.name target.index target.adds (.elements (← elements parsers)))
    return some (.set target.name target.index target.adds (.word target.value))

/-! ### Simple commands -/

/-- The commands whose arguments may be settings of arrays. -/
def declares (word : Word) : Bool :=
  match Script.literal? word with
  | some cs =>
    ["declare", "local", "typeset", "readonly", "export"].contains (String.ofList cs)
  | none => false

structure Simple where
  settings : List Setting := []
  words : List Word := []
  redirects : List Redirect := []
  /-- Arrays that are set behind the command that declares them. -/
  later : List Setting := []

/-- The commands with a special meaning, whose names no function can have. -/
def specials : List String :=
  [".", ":", "break", "continue", "eval", "exec", "exit", "export", "readonly", "return", "set",
    "shift", "times", "trap", "unset"]

/-- A function, behind its name and the opening parenthesis. -/
def function (parsers : Parsers) (name : Word) : Reader Script := do
  want parsers (.operator ")") false
  let line := (← get).line
  match Script.literal? name with
  | some cs =>
    let name := String.ofList cs
    if (← dialect) = .plain && (!isName cs || specials.contains name) then
      fail "Syntax error: Bad function name"
    again (← next parsers true true)
    return .define line name (← parsers.script .command)
  | none => fail "Syntax error: Bad function name"

/-- A simple command, or a function, whose first token is read again. -/
def simple (parsers : Parsers) (line : Nat) : Reader Script := do
  loop ({} : Simple) fun simple => do
    match ← next parsers false false with
    | .word word _ =>
      let isSetting := simple.words.isEmpty
      let isArray := !isSetting && simple.words.any declares && (← peek) = some '('
      if isSetting || isArray then
        match ← setting? parsers word with
        | some setting =>
          if isSetting then return .inl { simple with settings := setting :: simple.settings }
          else
            let .set name .. := setting
            return .inl { simple with
              words := [.text false name.toList] :: simple.words, later := setting :: simple.later }
        | none => return .inl { simple with words := word :: simple.words }
      return .inl { simple with words := word :: simple.words }
    | .redirection channel how strips =>
      let redirect ← redirect parsers channel how strips
      return .inl { simple with redirects := redirect :: simple.redirects }
    | token =>
      match token, simple with
      | .operator "(", ⟨[], [name], [], _⟩ => return .inr (← function parsers name)
      | _, _ =>
        again token
        let command :=
          Script.simple line simple.settings.reverse simple.words.reverse simple.redirects.reverse
        return .inr (if simple.later.isEmpty then command
          else .sequence command (.simple line simple.later.reverse [] []))

/-! ### Conditions -/

/-- The operators of conditions with one and with two operands. -/
def unaries : List String :=
  ["-a", "-b", "-c", "-d", "-e", "-f", "-g", "-h", "-L", "-k", "-n", "-p", "-r", "-S", "-s", "-t",
    "-u", "-v", "-w", "-x", "-z", "-o"]

def binaries : List String :=
  ["=", "==", "!=", "=~", "-eq", "-ne", "-lt", "-le", "-gt", "-ge", "-nt", "-ot", "-ef"]

/-- The text of a token in a condition, if it can be an operator. -/
def operatorText : Token → Option String
  | .word word false => (Script.literal? word).map String.ofList
  | .operator text => some text
  | .redirection none .input _ => some "<"
  | .redirection none .output _ => some ">"
  | _ => none

/-- A test of a condition, from its first word on. -/
def test (parsers : Parsers) (first : Word) : Reader Condition := do
  let text := (Script.literal? first).map String.ofList
  let token ← next parsers false true
  match token, text.bind fun text => if unaries.contains text then some text else none with
  | .word word _, some operator =>
    match operatorText token with
    | some "]]" =>
      again token
      return .word first
    | _ => return .unary operator word
  | _, _ =>
    match operatorText token with
    | some operator =>
      if operator = "=~" then
        discard (while_ isSpace)
        return .binary operator first (← parsers.word .expression)
      else if binaries.contains operator || operator = "<" || operator = ">" then
        match ← next parsers false false with
        | .word word _ => return .binary operator first word
        | _ => unexpected none
      else
        again token
        return .word first
    | none => unexpected none

/-- The conditions that both have to hold, or one of which has to; `fuel` bounds how deep
conditions are inside of one another. -/
def condition (parsers : Parsers) : (fuel : Nat) → (level : Nat) → Reader Condition
  | 0, _ => fail "Syntax error"
  | fuel + 1, 0 => chain "||" .either (condition parsers fuel 1)
  | fuel + 1, 1 => chain "&&" .both (condition parsers fuel 2)
  | fuel + 1, _ => do
    match ← next parsers false true with
    | .operator "(" =>
      let inner ← condition parsers fuel 0
      want parsers (.operator ")") false
      return inner
    | .word word isQuoted =>
      if !isQuoted && Script.literal? word = some ['!'] then
        return .negation (← condition parsers fuel 2)
      else test parsers word
    | _ => unexpected none
where
  /-- Conditions with an operator between them. -/
  chain (operator : String) (joined : Condition → Condition → Condition)
      (part : Reader Condition) : Reader Condition := do
    let first ← part
    loop first fun first => do
      match ← next parsers false true with
      | .operator text =>
        if text = operator then return .inl (joined first (← part))
        again (.operator text)
        return .inr first
      | token =>
        again token
        return .inr first

/-! ### Compound commands -/

/-- The expressions of a counted loop, behind the opening parentheses. -/
def clauses (parsers : Parsers) : Reader (Word × Word × Word) := do
  let start ← parsers.word .clause
  skip 1
  let test ← parsers.word .clause
  skip 1
  let step ← parsers.word .clause
  skip 2
  return (start, test, step)

/-- The body of a loop, behind its head. -/
def loopBody (parsers : Parsers) : Reader Script := do
  want parsers (.keyword "do") true
  let body ← parsers.script .body
  want parsers (.keyword "done") false
  return body

/-- The branches of a condition, behind the word that opens the first one. -/
def branches (parsers : Parsers) : Reader Script := do
  let branch : Reader (Script × Script) := do
    let test ← parsers.script .body
    want parsers (.keyword "then") false
    return (test, ← parsers.script .body)
  let found ← loop [← branch] fun found => do
    match ← next parsers false false with
    | .keyword "elif" => return .inl ((← branch) :: found)
    | token =>
      again token
      return .inr found
  let last ← match ← next parsers false false with
    | .keyword "else" => do pure (some (← parsers.script .body))
    | token => do
      again token
      pure none
  want parsers (.keyword "fi") false
  return ((found.foldl (fun rest (test, yes) => some (.branch test yes rest)) last)).getD .nothing

/-- The words that a loop goes through, if they are given. -/
def loopWords (parsers : Parsers) : Reader (Option (List Word)) := do
  match ← next parsers true true with
  | .keyword "in" =>
    let words ← loop ([] : List Word) fun words => do
      match ← next parsers false false with
      | .word word _ => return .inl (word :: words)
      | .lineEnd | .operator ";" => return .inr words
      | _ => unexpected none
    return some words.reverse
  | .operator ";" => return none
  | token =>
    again token
    return none

/-- A loop over words or with a count, behind its keyword. -/
def forLoop (parsers : Parsers) (line : Nat) : Reader Script := do
  let isCounted ← do
    if (← dialect) = .plain then pure false
    else
      blanks
      pure ((← peekMany 2) = ['(', '('])
  if isCounted then
    skip 2
    let (start, test, step) ← clauses parsers
    match ← next parsers true true with
    | .operator ";" => pure ()
    | token => again token
    return .counted line start test step (← loopBody parsers)
  match ← next parsers false false with
  | .word word false =>
    match Script.literal? word with
    | some cs =>
      if !isName cs then fail "Syntax error: Bad for loop variable"
      let words ← loopWords parsers
      return .each line (String.ofList cs) words (← loopBody parsers)
    | none => fail "Syntax error: Bad for loop variable"
  | _ => fail "Syntax error: Bad for loop variable"

/-- The patterns of a case up to the closing parenthesis. -/
def patterns (parsers : Parsers) (first : Token) : Reader (List Word) := do
  let wordOf : Token → Word
    | .word word _ => word
    | .keyword name => [.text false name.toList]
    | _ => []
  let first ← match first with
    | .operator "(" => next parsers false false
    | token => pure token
  let found ← loop [wordOf first] fun found => do
    match ← next parsers false false with
    | .operator "|" => return .inl (wordOf (← next parsers false false) :: found)
    | .operator ")" => return .inr found
    | _ => unexpected (some (.operator ")"))
  return found.reverse

/-- A choice, behind its keyword. -/
def choice (parsers : Parsers) (line : Nat) : Reader Script := do
  match ← next parsers false false with
  | .word subject _ =>
    want parsers (.keyword "in") true
    let cases ← loop ([] : List Case) fun cases => do
      match ← next parsers true true with
      | .keyword "esac" => return .inr cases
      | token =>
        let patterns ← patterns parsers token
        let body ← parsers.script .bodyOrNothing
        match ← next parsers true true with
        | .keyword "esac" => return .inr (.when patterns body "" :: cases)
        | .operator text =>
          if text = ";;" then return .inl (.when patterns body "" :: cases)
          else if text = ";&" || text = ";;&" then
            return .inl (.when patterns body text :: cases)
          else unexpected (some (.operator ";;"))
        | _ => unexpected (some (.operator ";;"))
    return .choice line subject cases.reverse
  | _ => unexpected (some (.word [] false))

/-- A command in parentheses, or a calculation in double ones, behind the first one. -/
def enclosed (parsers : Parsers) (line : Nat) : Reader Script := do
  let subshell : Reader Script := do
    let body ← parsers.script .body
    want parsers (.operator ")") false
    return .subshell line body []
  if (← dialect) = .extended && (← peek) = some '(' then
    let calculation : Reader Script := do
      skip 1
      return .calculation line (← parsers.word .number)
    fun source => match calculation source with
      | .ok result => .ok result
      | .error _ => subshell source
  else subshell

/-- A command. -/
def command (parsers : Parsers) : Reader Script := do
  let line := (← get).line
  let compound (script : Reader Script) : Reader Script := do
    let body ← script
    match body, ← redirects parsers with
    | body, [] => return body
    | .subshell line body _, found => return .subshell line body found
    | body, found => return .redirected line body found
  let token ← next parsers false false
  match token with
  | .keyword "if" => compound (branches parsers)
  | .keyword "while" | .keyword "until" =>
    compound do
      let test ← parsers.script .body
      let succeeding := match token with
        | .keyword "while" => true
        | _ => false
      want parsers (.keyword "do") false
      let body ← parsers.script .body
      want parsers (.keyword "done") false
      return .loop succeeding test body
  | .keyword "for" => compound (forLoop parsers line)
  | .keyword "case" => compound (choice parsers line)
  | .operator "(" => compound (enclosed parsers line)
  | .keyword "\x7b" =>
    compound do
      let body ← parsers.script .body
      want parsers (.keyword "\x7d") false
      return body
  | .keyword "[[" =>
    compound do
      let condition ← condition parsers (← get).rest.length 0
      match ← next parsers false true with
      | .word word false =>
        if Script.literal? word = some [']', ']'] then return .condition line condition
        else unexpected none
      | _ => unexpected none
  | .keyword "function" =>
    match ← next parsers false false with
    | .word name _ =>
      let line := (← get).line
      match ← next parsers true true with
      | .operator "(" =>
        want parsers (.operator ")") false
        again (← next parsers true true)
      | token => again token
      return .define line (String.ofList (characters name)) (← parsers.script .command)
    | _ => unexpected none
  | .word .. | .redirection .. =>
    again token
    simple parsers (← get).line
  | _ => unexpected none

/-! ### Lists of commands -/

/-- Join the error output of a command to its output. -/
def withErrors : Script → Script
  | .subshell line body redirects =>
    .subshell line body (redirects ++ [.to 2 (.copy false) [.text false ['1']]])
  | .simple line settings words redirects =>
    .simple line settings words (redirects ++ [.to 2 (.copy false) [.text false ['1']]])
  | body => .redirected 1 body [.to 2 (.copy false) [.text false ['1']]]

/-- Commands with pipes between them. The first token of a command may be a keyword. -/
def pipeline (parsers : Parsers) : Reader Script := do
  let isNegated ← match ← next parsers false false with
    | .keyword "!" => do
      again (← next parsers true false)
      pure true
    | token => do
      again token
      pure false
  let first ← parsers.script .command
  let stages ← loop [first] fun stages => do
    match ← next parsers false false with
    | .operator "|" =>
      again (← next parsers true true)
      return .inl ((← parsers.script .command) :: stages)
    | .operator "|&" =>
      again (← next parsers true true)
      let stages := (stages.head?.map withErrors).toList ++ stages.drop 1
      return .inl ((← parsers.script .command) :: stages)
    | token =>
      again token
      return .inr stages
  let script := match stages with
    | [stage] => stage
    | stages => .pipeline stages.reverse
  return if isNegated then .negation script else script

/-- Pipelines that hang on whether the ones before them succeed. -/
def chain (parsers : Parsers) : Reader Script := do
  let first ← pipeline parsers
  loop first fun first => do
    match ← next parsers false false with
    | .operator "&&" =>
      again (← next parsers true true)
      return .inl (.both first (← pipeline parsers))
    | .operator "||" =>
      again (← next parsers true true)
      return .inl (.either first (← pipeline parsers))
    | token =>
      again token
      return .inr first

/-- One script after another. -/
def joined : Option Script → Script → Script
  | none, second => second
  | some first, second => .sequence first second

/-- Commands one after the other, and whether there was nothing but the end of the source. -/
def list (parsers : Parsers) (wanted : Wanted) : Reader (Option Script × Bool) := do
  let isLine := wanted = .line
  let start : Option Script × Bool := (none, wanted = .bodyOrNothing)
  loop start fun (sofar, mayEnd) => do
    let token ← next parsers true (!isLine)
    match token with
    | .lineEnd =>
      texts parsers
      return .inr (sofar, false)
    | .finish =>
      texts parsers
      again .finish
      return .inr (sofar, true)
    | _ =>
      again token
      if mayEnd && ends token then return .inr (sofar, false)
      let script ← chain parsers
      let token ← next parsers false false
      let script := match token with
        | .operator "&" => .background script
        | _ => script
      let sofar := some (joined sofar script)
      match token with
      | .finish =>
        texts parsers
        again .finish
        return .inr (sofar, true)
      | .lineEnd =>
        again token
        return .inl (sofar, !isLine)
      | .operator "&" | .operator ";" => return .inl (sofar, !isLine)
      | _ =>
        if isLine then unexpected none
        again token
        return .inr (sofar, false)

/-! ### Whole scripts -/

/-- A script in a word: behind an opening parenthesis, or up to the end. -/
def inner (parsers : Parsers) (closed : Bool) : Reader Script := do
  let outer ← get
  set { outer with held := none, awaited := [] }
  let (script, _) ← list parsers .bodyOrNothing
  if closed then want parsers (.operator ")") false
  else match ← next parsers false false with
    | .finish => pure ()
    | _ => unexpected none
  modify fun source => { source with held := outer.held, awaited := outer.awaited }
  return script.getD .nothing

mutual

/-- Read a word in a place; `fuel` bounds how deep parts are inside of one another. -/
def word : (fuel : Nat) → Place → Reader Word
  | 0, _ => fail "Syntax error"
  | fuel + 1, place => fun source =>
    Words.read (inner ⟨word fuel, script fuel⟩) source.bound place source

/-- Read a part of a script; `fuel` bounds how deep parts are inside of one another. -/
def script : (fuel : Nat) → Wanted → Reader Script
  | 0, _ => fail "Syntax error"
  | fuel + 1, .command => command ⟨word fuel, script fuel⟩
  | fuel + 1, wanted => do
    return (← list ⟨word fuel, script fuel⟩ wanted).1.getD .nothing

end

/-- How parts of a source are read. -/
def parsers (source : Source) : Parsers := ⟨word source.bound, script source.bound⟩

/-- The source of a script. -/
def source (dialect : Dialect) (cs : List Char) (line next : Nat) : Source :=
  { dialect, rest := cs, line, lines := cs.splitOn '\n', next }

/-- The commands of the next line, if they are not behind the end of the source. The second part
says whether this is the last line. -/
def line? (source : Source) : Except Unreadable (Option (Script × Bool) × Source) :=
  match list (parsers source) .line source with
  | .error unreadable => .error unreadable
  | .ok ((script, isOver), source) =>
    .ok (match script, isOver with
      | none, true => none
      | script, isOver => some (script.getD .nothing, isOver), source)

end Grammar

end TrackSelect.Shell
